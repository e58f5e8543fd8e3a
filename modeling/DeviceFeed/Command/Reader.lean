import DeviceFeed.Command
import DeviceFeed.Json.Shape

/-!
# Reading commands and code tables

This file reads commands and code tables from JSON text. A code that a table
leaves out keeps its usual value.
-/

namespace DeviceFeed

open Json (Shape Reader member)

namespace Command

def reader : Reader Command :=
  Reader.oneOf
    [("Response", .nothing .response), ("Hardware", .nothing .hardware),
      ("LogEvent", .nothing .logEvent), ("DeviceConnect", .nothing .deviceConnect),
      ("DeviceDisconnect", .nothing .deviceDisconnect), ("AppSync", .nothing .appSync),
      ("Unknown", .single (unknown <$> Reader.uint8))]

def ofJson (text : String) : Except Json.Error Command :=
  Json.parse reader text

end Command

namespace CodeTable

def shape : Shape CodeTable where
  expected := "struct CommandCodes"
  blank := {}
  members :=
    [member "response" false Reader.uint8 fun t code => { t with response := code },
      member "hardware" false Reader.uint8 fun t code => { t with hardware := code },
      member "log_event" false Reader.uint8 fun t code => { t with logEvent := code },
      member "device_connect" false Reader.uint8 fun t code => { t with deviceConnect := code },
      member "device_disconnect" false Reader.uint8 fun t code =>
        { t with deviceDisconnect := code },
      member "app_sync" false Reader.uint8 fun t code => { t with appSync := code }]
  allowsShort := true

def reader : Reader CodeTable :=
  Reader.struct shape

def ofJson (text : String) : Except Json.Error CodeTable :=
  Json.parse reader text

end CodeTable

end DeviceFeed
