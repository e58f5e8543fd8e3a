import DeviceFeed.Json.Skip

/-!
# Reading structures

A structure is written as an object, with its members in any order, or as a
list of its members in their own order. In an object, members that nobody asks
for are skipped, and members that are not required may be absent.
-/

namespace DeviceFeed.Json

/-- A member of a structure that is filled in step by step. -/
structure Member (α : Type) where
  name : String
  required : Bool
  /-- Reads the member and fills it in. -/
  fill : α → Reader α

/-- How a structure is read. -/
structure Shape (α : Type) where
  expected : String
  blank : α
  members : List (Member α)
  /-- Whether a list may leave out members at its end. -/
  allowsShort : Bool

/-- A member that is read on its own and then set. -/
def member {α β : Type} (name : String) (required : Bool) (read : Reader β) (set : α → β → α) :
    Member α :=
  ⟨name, required, fun a => set a <$> read⟩

namespace Reader

variable {α : Type}

/-- Whether an object goes on, up to the name of its next member. -/
def hasMember (isFirst : Bool) : Reader Bool := do
  match ← peekToken with
  | none => failNext .endInObject
  | some b =>
    if b = byte '\x7d' then
      pure false
    else if isFirst then
      if b = byte '"' then pure true else failNext .keyNotString
    else if b = byte ',' then
      advance
      match ← peekToken with
      | none => failNext .endInValue
      | some c =>
        if c = byte '"' then pure true
        else if c = byte '\x7d' then failNext .trailingComma
        else failNext .keyNotString
    else
      failNext .expectedObjectEnd

def closeObject : Reader Unit := do
  match ← peekToken with
  | none => failNext .endInObject
  | some b =>
    if b = byte '\x7d' then advance
    else if b = byte ',' then failNext .trailingComma
    else failNext .trailingCharacters

/-- Fills in the members of an object up to its end, and collects the names of
those that were set. At most so many bytes are left; the fuel bounds the number
of members. -/
def fillMembers (members : List (Member α)) (size : Nat) :
    Nat → Bool → List String → α → Reader (List String × α)
  | 0, _, seen, a => pure (seen, a)
  | fuel + 1, isFirst, seen, a => do
    if ← hasMember isFirst then
      advance
      let name ← stringBody
      match members.find? (·.name == name) with
      | none =>
        colon
        skip size
        fillMembers members size fuel false seen a
      | some m =>
        if name ∈ seen then
          fail (.duplicateField name)
        else
          colon
          let filled ← m.fill a
          fillMembers members size fuel false (name :: seen) filled
    else
      pure (seen, a)

def objectBody (shape : Shape α) : Reader α := do
  let size := (← get).length
  let (seen, a) ← fillMembers shape.members size (size + 1) true [] shape.blank
  match shape.members.find? (fun m => m.required && !seen.contains m.name) with
  | some m => fail (.missingField m.name)
  | none => pure a

/-- What is expected of a list that stands for a structure. -/
def expectedItems (shape : Shape α) : String :=
  let count := shape.members.length
  shape.expected ++ " with " ++ Text.decimal count ++
    (if count = 1 then " element" else " elements")

/-- Fills in the members that a list gives in order. The position counts those
before. -/
def fillItems (shape : Shape α) : Nat → List (Member α) → α → Reader α
  | _, [], a => pure a
  | position, m :: more, a => do
    if ← hasItem (position = 0) then
      fillItems shape (position + 1) more (← m.fill a)
    else if shape.allowsShort then
      pure a
    else
      fail (.wrongLength position (expectedItems shape))

def struct (shape : Shape α) : Reader α :=
  value fun b => do
    if b = byte '[' then
      advance
      closing (fillItems shape 0 shape.members shape.blank) closeList
    else if b = byte '\x7b' then
      advance
      closing (objectBody shape) closeObject
    else
      mismatch shape.expected

/-! ## Alternatives -/

/-- What comes with the name of an alternative. -/
inductive Content (α : Type) where
  | nothing (a : α)
  /-- A value that is not a structure. -/
  | single (read : Reader α)
  | members (read : Reader α)

/-- Reads the name of an alternative, whose opening mark comes next. -/
def alternative {β : Type} (known : List (String × β)) : Reader β :=
  value fun _ => do
    advance
    let name ← stringBody
    match known.find? (·.1 == name) with
    | some (_, found) => pure found
    | none => fail (.unknownVariant name (known.map (·.1)))

/-- Looks for the name of an alternative in an object, which must have one. -/
def expectName : Reader Unit := do
  match ← peekToken with
  | none => failNext .endInObject
  | some b =>
    if b = byte '"' then pure ()
    else if b = byte '\x7d' then failNext .expectedValue
    else failNext .keyNotString

/-- Reads one of several alternatives: an object with a name and the content
that goes with it, or only a name where nothing goes with it. -/
def oneOf (known : List (String × Content α)) : Reader α := do
  match ← peekToken with
  | none => failNext .endInValue
  | some b =>
    if b = byte '\x7b' then
      advance
      expectName
      let content ← alternative known
      colon
      let a ←
        match content with
        | .nothing a => do
          unit
          pure a
        | .single read => read
        | .members read => read
      match ← peekToken with
      | none => failHere .endInObject
      | some c =>
        if c = byte '\x7d' then
          advance
          pure a
        else
          failHere .expectedValue
    else if b = byte '"' then
      match ← alternative known with
      | .nothing a => pure a
      | .single _ => fail (.wrongKind .bareName "newtype variant")
      | .members _ => fail (.wrongKind .bareName "struct variant")
    else
      failNext .expectedValue

end Reader

end DeviceFeed.Json
