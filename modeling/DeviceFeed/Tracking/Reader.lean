import DeviceFeed.Tracking
import DeviceFeed.Json.Shape

/-!
# Reading tracking

This file reads a choice of tracking from JSON text.
-/

namespace DeviceFeed.Tracking

open Json (Shape Reader member)

def shape : Shape Tracking where
  expected := "struct TrackingState"
  blank := {}
  members :=
    [member "tracked_device_id" false (Reader.option Reader.int64) fun t id =>
        { t with deviceId := id },
      member "track_only_by_device_id" true Reader.bool fun t only => { t with only := only }]
  allowsShort := false

def reader : Reader Tracking :=
  Reader.struct shape

def ofJson (text : String) : Except Json.Error Tracking :=
  Json.parse reader text

end DeviceFeed.Tracking
