import DeviceFeed.Message
import Mathlib.Tactic.Common

/-!
# Log lines and their topics

Every line of the log opens with words that depend on the kind of its message only, and no
two kinds share them.  So the messages of a kind are counted by the openings of the lines,
and the most talkative level shows every message.
-/

namespace DeviceFeed

/-! ## Topics -/

/-- What a message is about. -/
inductive Topic where
  | dispatching
  | suppressed
  | publishing
  | dropping
  | channelFull
  | channelClosed
  | recorded
  deriving DecidableEq, Repr

namespace Topic

def level : Topic → Level
  | dispatching => .debug
  | suppressed => .trace
  | publishing => .trace
  | dropping => .warn
  | channelFull => .warn
  | channelClosed => .warn
  | recorded => .debug

def target : Topic → String
  | dispatching => "devwire_core::dispatch"
  | suppressed => "devwire_core::processor"
  | publishing => "devwire_core::processor"
  | dropping => "devwire_core::processor"
  | channelFull => "devwire_core::publish"
  | channelClosed => "devwire_core::publish"
  | recorded => "devwire::debug"

/-- How the texts of the messages about a topic begin. -/
def words : Topic → String
  | dispatching => "Dispatching "
  | suppressed => "Suppressed hardware frame "
  | publishing => "Publishing "
  | dropping => "Dropping frame: "
  | channelFull => "Event channel full, dropping "
  | channelClosed => "Event channel closed, dropping "
  | recorded => ""

/-- How the lines about a topic begin. -/
def opening (topic : Topic) : String :=
  topic.level.name ++ " " ++ topic.target ++ ": " ++ topic.words

/-- The topics of the messages that name an event. -/
def aboutEvents : List Topic :=
  [publishing, channelFull, channelClosed]

end Topic

namespace Message

def topic : Message → Topic
  | dispatching .. => .dispatching
  | suppressed .. => .suppressed
  | publishing _ => .publishing
  | dropping _ => .dropping
  | channelFull _ => .channelFull
  | channelClosed _ => .channelClosed
  | recorded _ => .recorded

theorem level_eq (message : Message) : message.level = message.topic.level := by
  cases message <;> rfl

theorem target_eq (message : Message) : message.target = message.topic.target := by
  cases message <;> rfl

theorem words_prefix_text (message : Message) :
    message.topic.words.toList <+: message.text.toList := by
  have hstart (words rest : String) : words.toList <+: (words ++ rest).toList := by
    rw [String.toList_append]
    exact List.prefix_append _ _
  have hmore {words front : String} (h : words.toList <+: front.toList) (rest : String) :
      words.toList <+: (front ++ rest).toList := by
    rw [String.toList_append]
    exact h.trans (List.prefix_append _ _)
  cases message with
  | dispatching command header size =>
      exact hmore (hmore (hmore (hmore (hmore (hmore (hmore (hstart _ _) _) _) _) _) _) _) _
  | suppressed messageId followed => exact hmore (hmore (hmore (hstart _ _) _) _) _
  | publishing kind => exact hmore (hstart _ _) _
  | dropping why => exact hstart _ _
  | channelFull kind => exact hmore (hstart _ _) _
  | channelClosed kind => exact hmore (hstart _ _) _
  | recorded record => exact List.nil_prefix

theorem opening_prefix_line (message : Message) :
    message.topic.opening.toList <+: message.line.toList := by
  obtain ⟨rest, htext⟩ := message.words_prefix_text
  refine ⟨rest, ?_⟩
  rw [line, Level.line, level_eq, target_eq, Topic.opening, String.toList_append,
    List.append_assoc, htext, ← String.toList_append]

/-- How many messages are about a topic. -/
def count (topic : Topic) (messages : List Message) : Nat :=
  messages.countP fun message => message.topic == topic

theorem count_append (topic : Topic) (first second : List Message) :
    count topic (first ++ second) = count topic first + count topic second :=
  List.countP_append

theorem count_eq_zero {topic : Topic} {topics : List Topic} {messages : List Message}
    (h : ∀ message ∈ messages, message.topic ∈ topics) (htopic : topic ∉ topics) :
    count topic messages = 0 := by
  rw [count, List.countP_eq_zero]
  intro message hmem heq
  rw [beq_iff_eq] at heq
  exact htopic (heq ▸ h message hmem)

/-- The messages that name an event. -/
def aboutEvents (messages : List Message) : List Message :=
  messages.filter fun message => message.topic ∈ Topic.aboutEvents

theorem aboutEvents_append (first second : List Message) :
    aboutEvents (first ++ second) = aboutEvents first ++ aboutEvents second :=
  List.filter_append _ _

theorem aboutEvents_eq_nil {topics : List Topic} {messages : List Message}
    (h : ∀ message ∈ messages, message.topic ∈ topics)
    (hnone : ∀ topic ∈ topics, topic ∉ Topic.aboutEvents) : aboutEvents messages = [] := by
  rw [aboutEvents, List.filter_eq_nil_iff]
  intro message hmem habout
  exact hnone _ (h message hmem) (of_decide_eq_true habout)

/-- The kind of the event whose loss a message reports. -/
def lost? : Message → Option String
  | channelFull kind => some kind
  | channelClosed kind => some kind
  | _ => none

theorem lost?_of_topic {message : Message} {topics : List Topic} (h : message.topic ∈ topics)
    (hfull : Topic.channelFull ∉ topics) (hclosed : Topic.channelClosed ∉ topics) :
    message.lost? = none := by
  cases message with
  | channelFull kind => exact absurd h hfull
  | channelClosed kind => exact absurd h hclosed
  | _ => rfl

theorem eq_of_lost? {message : Message} {kind : String} (h : message.lost? = some kind) :
    message = .channelFull kind ∨ message = .channelClosed kind := by
  cases message with
  | channelFull other =>
      obtain rfl : other = kind := Option.some.inj h
      exact Or.inl rfl
  | channelClosed other =>
      obtain rfl : other = kind := Option.some.inj h
      exact Or.inr rfl
  | _ => cases h

end Message

/-! ## Openings -/

/-- Whether a line opens with the given words. -/
def opensWith (words line : String) : Bool :=
  words.toList.isPrefixOf line.toList

/-- Somewhere within the length of both, the texts are different. -/
def differ (first second : List Char) : Bool :=
  (first.zip second).any fun x => x.1 != x.2

theorem isPrefixOf_append_of_differ {first second : List Char}
    (h : differ first second = true) (rest : List Char) :
    first.isPrefixOf (second ++ rest) = false := by
  induction first generalizing second with
  | nil => cases h
  | cons c first ih =>
      cases second with
      | nil => cases h
      | cons d second =>
          rw [differ, List.zip_cons_cons, List.any_cons, Bool.or_eq_true] at h
          rw [List.cons_append, List.isPrefixOf_cons_cons, Bool.and_eq_false_iff]
          rcases h with hhead | hmore
          · exact Or.inl (by simpa using hhead)
          · exact Or.inr (ih hmore)

theorem Topic.differ_opening (first second : Topic) (h : first ≠ second) :
    differ first.opening.toList second.opening.toList = true := by
  cases first <;> cases second <;> first | exact absurd rfl h | decide

/-- The opening of a line shows the topic of its message. -/
theorem Message.opensWith_line (topic : Topic) (message : Message) :
    opensWith topic.opening message.line = (message.topic == topic) := by
  obtain ⟨rest, hline⟩ := message.opening_prefix_line
  rw [opensWith, ← hline]
  by_cases h : message.topic = topic
  · rw [h, beq_self_eq_true, List.isPrefixOf_iff_prefix]
    exact List.prefix_append _ _
  · rw [beq_eq_false_iff_ne.2 h]
    exact isPrefixOf_append_of_differ (topic.differ_opening message.topic (Ne.symm h)) _

/-! ## The most talkative log -/

/-- At trace level a log shows every message. -/
theorem logLines_trace (messages : List Message) :
    logLines .trace messages = messages.map Message.line := by
  have hshown : ∀ message ∈ messages, Level.trace.shows message.level = true := by
    intro message _
    cases message <;> rfl
  rw [logLines, List.filter_eq_self.2 hshown]

theorem countP_opensWith_logLines (topic : Topic) (messages : List Message) :
    (logLines .trace messages).countP (opensWith topic.opening) =
      Message.count topic messages := by
  rw [logLines_trace, List.countP_map, Message.count]
  exact List.countP_congr fun message _ => by
    rw [Function.comp_apply, Message.opensWith_line]

end DeviceFeed
