/- module: AeronClusterClient/Json
   source: the jsoncpp calls of src/sbe_encoder.cpp, src/cluster_client.cpp,
   src/commit_manager.cpp and src/order_types.cpp
   digest: The jsoncpp value type, the accessors the client uses, and its text codec as a parameter. -/

import AeronClusterClient.Text

/-!
jsoncpp is a third-party library. Its values and accessors follow its
documented behaviour; reading and writing JSON text, and everything about
floating-point numbers, stay parameters.
-/

set_option autoImplicit false
set_option relaxedAutoImplicit false

namespace AeronClusterClient.Json

open Text (StdString ascii stdToString stoull)

/-- A `Json::Value`. A double is carried by its bit pattern and never interpreted here. -/
inductive Value
  | null
  | int (i : Int)
  | uint (n : Nat)
  | real (bits : UInt64)
  | string (s : StdString)
  | bool (b : Bool)
  | array (items : List Value)
  | object (members : List (StdString × Value))

/-- What the client needs from jsoncpp. -/
structure Jsoncpp where
  /-- `Json::parseFromStream`: it throws, or it reports failure, or it yields a root value. -/
  parse : StdString → Except StdString (Option Value)
  /-- `Json::writeString` with an empty indentation. -/
  write : Value → StdString
  /-- The text `asString` gives for a double. -/
  realText : UInt64 → StdString
  /-- The integer a double is equal to, when it is integral. -/
  realIntegral : UInt64 → Option Int
  /-- `static_cast<std::uint64_t>` of a double. -/
  realTruncated : UInt64 → Nat

def isObject : Value → Bool
  | .object _ => true
  | _ => false

/-- `Json::Value::isMember`; it throws unless the value is an object or null. -/
def isMember : Value → StdString → Except StdString Bool
  | .object members, key => .ok (members.any (fun m => m.1 == key))
  | .null, _ => .ok false
  | _, _ => .error (ascii "in Json::Value::find(begin, end): requires objectValue or nullValue")

/-- `value[key]`, null when there is no such member. -/
def member : Value → StdString → Value
  | .object members, key => ((members.find? (fun m => m.1 == key)).map Prod.snd).getD .null
  | _, _ => .null

/-- `Json::Value::asString`; arrays and objects are not convertible. -/
def asString (json : Jsoncpp) : Value → Except StdString StdString
  | .null => .ok []
  | .string s => .ok s
  | .bool true => .ok (ascii "true")
  | .bool false => .ok (ascii "false")
  | .int i => .ok (stdToString i)
  | .uint n => .ok (stdToString n)
  | .real bits => .ok (json.realText bits)
  | .array _ | .object _ => .error (ascii "Type is not convertible to string")

/-- `Json::Value::get`: a default stands in for a member that is missing. -/
def get (v : Value) (key : StdString) (default : Value) : Except StdString Value := do
  if ← isMember v key then return member v key
  return default

/-- `Json::Value::asUInt64`; a double in range is truncated. -/
def asUInt64 (json : Jsoncpp) : Value → Except StdString Nat
  | .null => .ok 0
  | .bool b => .ok b.toNat
  | .int i => if 0 ≤ i then .ok i.toNat else .error (ascii "LargestInt out of UInt64 range")
  | .uint n => .ok n
  | .real bits =>
      -- from zero, of either sign, to 2 ^ 64
      if bits ≤ 0x43F0000000000000 ∨ bits = 0x8000000000000000 then .ok (json.realTruncated bits)
      else .error (ascii "double out of UInt64 range")
  | .string _ | .array _ | .object _ => .error (ascii "Value is not convertible to UInt64.")

/-- `Json::Value::asInt64`; a double in range is truncated. -/
def asInt64 (json : Jsoncpp) : Value → Except StdString Int
  | .null => .ok 0
  | .bool b => .ok b.toNat
  | .int i => .ok i
  | .uint n => if n < 2 ^ 63 then .ok n else .error (ascii "LargestUInt out of Int64 range")
  | .real bits =>
      -- from zero to 2 ^ 63, and from there with the sign bit to -(2 ^ 63)
      if bits ≤ 0x43E0000000000000 then .ok (json.realTruncated bits)
      else if 0x8000000000000000 ≤ bits ∧ bits ≤ 0xC3E0000000000000 then
        .ok (-(json.realTruncated (bits - 0x8000000000000000) : Int))
      else .error (ascii "double out of Int64 range")
  | .string _ | .array _ | .object _ => .error (ascii "Value is not convertible to Int64.")

section Members

variable (json : Jsoncpp) (root : Value) (key : StdString)

/-- `root.get(key, default).asString()`. -/
def getString (default : StdString) : Except StdString StdString := do
  asString json (← get root key (.string default))

/-- `root.get(key, 0).asUInt64()`. -/
def getUInt64 : Except StdString Nat := do
  asUInt64 json (← get root key (.int 0))

/-- `root.get(key, 0).asInt64()`. -/
def getInt64 : Except StdString Int := do
  asInt64 json (← get root key (.int 0))

end Members

/-- The mathematical value of a number that is an integer. -/
def integral (json : Jsoncpp) : Value → Option Int
  | .int i => some i
  | .uint n => some n
  | .real bits => json.realIntegral bits
  | _ => none

/-- `isUInt64`, with the value `asUInt64` then has. -/
def asUInt64? (json : Jsoncpp) (v : Value) : Option Nat := do
  let i ← integral json v
  if 0 ≤ i ∧ i < 2 ^ 64 then some i.toNat else none

/-- `isInt64`, with the value `asInt64` then has. -/
def asInt64? (json : Jsoncpp) (v : Value) : Option Int := do
  let i ← integral json v
  if -2 ^ 63 ≤ i ∧ i < 2 ^ 63 then some i else none

/-- The lambda `extractSequence` of `decode_topic_message_with_sbe`. -/
def extractSequence (json : Jsoncpp) (obj : Value) : Nat :=
  match obj with
  | .object members =>
      match members.find? (fun m => m.1 == ascii "_sequence_number") with
      | none => 0
      | some (_, seqValue) =>
          match asUInt64? json seqValue, asInt64? json seqValue, seqValue with
          | some n, _, _ => n
          | none, some i, _ => (i % 2 ^ 64).toNat
          | none, none, .real bits => json.realTruncated bits
          | none, none, .string s => (stoull s).getD 0
          | none, none, _ => 0
  | _ => 0

/-- The `message` member of a value, when it is there and is an object. -/
def nestedMessage (v : Value) : Except StdString (Option Value) := do
  if ← isMember v (ascii "message") then
    let inner := member v (ascii "message")
    return if isObject inner then some inner else none
  return none

/-- Search `_sequence_number` at the value itself and then down at most `depth` `message` members. -/
def searchSequence (json : Jsoncpp) : Nat → Value → Except StdString Nat
  | 0, v => .ok (extractSequence json v)
  | depth + 1, v =>
      if extractSequence json v ≠ 0 then .ok (extractSequence json v)
      else do
        match ← nestedMessage v with
        | some inner => searchSequence json depth inner
        | none => return 0

/-- The sequence number `decode_topic_message_with_sbe` finds in a payload.
Every exception on the way is caught there and leaves 0. -/
def sequenceNumberOfPayload (json : Jsoncpp) (payload : StdString) : Nat :=
  if payload = [] then 0
  else
    match json.parse payload with
    | .ok (some root) =>
        match isMember root (ascii "_sequence_number"), searchSequence json 3 root with
        | .ok _, .ok n => n
        | _, _ => 0
    | _ => 0

section ReadingBack

mutual

/-- A value as it is read after it was written: a number that fits a signed 64-bit integer is
read as one. -/
def Value.readBack : Value → Value
  | .uint n => if n < 2 ^ 63 then .int n else .uint n
  | .array items => .array (readBackItems items)
  | .object members => .object (readBackMembers members)
  | v => v

def Value.readBackItems : List Value → List Value
  | [] => []
  | v :: items => v.readBack :: readBackItems items

def Value.readBackMembers : List (StdString × Value) → List (StdString × Value)
  | [] => []
  | (key, v) :: members => (key, v.readBack) :: readBackMembers members

end

def ReadsBack (parse : StdString → Except StdString (Option Value)) (write : Value → StdString)
    (v : Value) : Prop :=
  parse (write v) = .ok (some v.readBack)

variable {json : Jsoncpp} {members : List (StdString × Value)} {key : StdString} {v : Value}

theorem get_of_find (found : members.find? (fun m => m.1 == key) = some (key, v)) (default : Value) :
    get (.object members) key default = .ok v := by
  have present : isMember (.object members) key = .ok true := by
    have among : members.any (fun m => m.1 == key) = true :=
      List.any_eq_true.mpr ⟨_, List.mem_of_find?_eq_some found, beq_self_eq_true key⟩
    rw [isMember, among]
  have value : member (.object members) key = v := by simp [member, found]
  unfold get
  rw [present, value]
  rfl

theorem isMember_of_absent (absent : members.any (fun m => m.1 == key) = false) :
    isMember (.object members) key = .ok false := by
  rw [isMember, absent]

theorem get_of_absent (absent : members.any (fun m => m.1 == key) = false) (default : Value) :
    get (.object members) key default = .ok default := by
  unfold get
  rw [isMember_of_absent absent]
  rfl

theorem getString_of_find {s : StdString}
    (found : members.find? (fun m => m.1 == key) = some (key, .string s)) (default : StdString) :
    getString json (.object members) key default = .ok s := by
  unfold getString
  rw [get_of_find found]
  rfl

theorem getString_of_absent (absent : members.any (fun m => m.1 == key) = false)
    (default : StdString) : getString json (.object members) key default = .ok default := by
  unfold getString
  rw [get_of_absent absent]
  rfl

theorem getInt64_of_absent (absent : members.any (fun m => m.1 == key) = false) :
    getInt64 json (.object members) key = .ok 0 := by
  unfold getInt64
  rw [get_of_absent absent]
  rfl

theorem getUInt64_of_find {n : Nat}
    (found : members.find? (fun m => m.1 == key) = some (key, (Value.uint n).readBack)) :
    getUInt64 json (.object members) key = .ok n := by
  unfold getUInt64
  rw [get_of_find found]
  change asUInt64 json (Value.uint n).readBack = .ok n
  by_cases small : n < 2 ^ 63
  · have read : (Value.uint n).readBack = .int n := by rw [Value.readBack, if_pos small]
    simp [read, asUInt64]
  · have read : (Value.uint n).readBack = .uint n := by rw [Value.readBack, if_neg small]
    simp [read, asUInt64]

end ReadingBack

section PlainTexts

private def quoted (s : StdString) : StdString := [34] ++ s ++ [34]

private def writeMember : StdString × Value → StdString
  | (key, .string s) => quoted key ++ [58] ++ quoted s
  | (key, _) => quoted key ++ ascii ":null"

/-- jsoncpp on plain texts: a flat object of strings without escapes is written compactly,
and a text that is no JSON is not parsed. -/
def plainJson : Jsoncpp where
  parse _ := .ok none
  write
    | .object members => [123] ++ List.intercalate [44] (members.map writeMember) ++ [125]
    | _ => ascii "null"
  realText _ := []
  realIntegral _ := none
  realTruncated _ := 0

section Compact

variable (realText : UInt64 → StdString)

mutual

def compactText : Value → StdString
  | .null => ascii "null"
  | .int i => stdToString i
  | .uint n => stdToString n
  | .real bits => realText bits
  | .string s => quoted s
  | .bool b => if b then ascii "true" else ascii "false"
  | .array items => [91] ++ compactItems items ++ [93]
  | .object members => [123] ++ compactMembers members ++ [125]

def compactItems : List Value → StdString
  | [] => []
  | [v] => compactText v
  | v :: items => compactText v ++ [44] ++ compactItems items

def compactMembers : List (StdString × Value) → StdString
  | [] => []
  | [(key, v)] => quoted key ++ [58] ++ compactText v
  | (key, v) :: members => quoted key ++ [58] ++ compactText v ++ [44] ++ compactMembers members

end

/-- jsoncpp on one value without escapes: it is written compactly, and of its text the value is read
back. -/
def compactJson (v : Value) : Jsoncpp where
  parse text := .ok (if text = compactText realText v then some v.readBack else none)
  write := compactText realText
  realText := realText
  realIntegral _ := none
  realTruncated _ := 0

theorem readsBack_compactJson (v : Value) :
    ReadsBack (compactJson realText v).parse (compactJson realText v).write v := by
  simp [ReadsBack, compactJson]

end Compact

end PlainTexts

end AeronClusterClient.Json
