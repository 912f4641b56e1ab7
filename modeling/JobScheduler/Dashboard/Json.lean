import JobScheduler.Domain.Models
import JobScheduler.Number.Binary64
import Mathlib.Algebra.Ring.Int.Defs

/-!
# The way of a JSON value into a column and back

`req.json()`, `JSON.stringify(…)::jsonb`, and what the driver and the response make of the column
again. A text has decimals of any length and strings of UTF-16 code units. JavaScript reads a
decimal as a double and writes the shortest decimal of that double, or `null` if it is infinite. The
server refuses strings with U+0000 or with a surrogate that has no partner. What passes is kept
exactly if its decimals are ones that JavaScript writes (`same_iff_lossless`).

The order of the members of an object is no part of its value, and the one that `jsonb` gives them
is not modelled, nor are the limits of the size and the depth of a value.
-/

set_option autoImplicit false

namespace JobScheduler

namespace Dashboard

/-! ## Strings -/

/-- A string: its code units. -/
abbrev JsString := List UInt16

/-- A surrogate code unit. -/
def surrogate (u : UInt16) : Bool := 0xD800 ≤ u && u ≤ 0xDFFF

/-- The character of a code unit that is decoded alone. -/
def unitChar (u : UInt16) : Char :=
  if surrogate u then Char.ofNat 0xFFFD else Char.ofNat u.toNat

/-- The characters the server reads. -/
def decode : JsString → List Char
  | [] => []
  | [u] => [unitChar u]
  | u :: v :: rest =>
      if (0xD800 ≤ u && u ≤ 0xDBFF) && (0xDC00 ≤ v && v ≤ 0xDFFF) then
        Char.ofNat (0x10000 + (u.toNat - 0xD800) * 0x400 + (v.toNat - 0xDC00)) :: decode rest
      else unitChar u :: decode (v :: rest)

/-- What `jsonb` refuses in a string. -/
inductive StringFault where
  /-- U+0000. -/
  | zero
  /-- A surrogate without a partner. -/
  | unpaired
deriving DecidableEq

/-- The message of the server. -/
def StringFault.message : StringFault → String
  | .zero => "unsupported Unicode escape sequence"
  | .unpaired => "invalid input syntax for type json"

/-- The fault of a code unit that is decoded alone. -/
def unitFault (u : UInt16) : List StringFault :=
  if u = 0 then [.zero] else if surrogate u then [.unpaired] else []

/-- The faults of a string, in their order. -/
def faults : JsString → List StringFault
  | [] => []
  | [u] => unitFault u
  | u :: v :: rest =>
      if (0xD800 ≤ u && u ≤ 0xDBFF) && (0xDC00 ≤ v && v ≤ 0xDFFF) then faults rest
      else unitFault u ++ faults (v :: rest)

/-- The string in a column, or the message of its first fault. -/
def storedString (units : JsString) : Except String String :=
  match faults units with
  | [] => .ok (String.ofList (decode units))
  | fault :: _ => .error fault.message

/-- These are the code units of the text. -/
def Encodes (units : JsString) (text : String) : Prop :=
  .unpaired ∉ faults units ∧ String.ofList (decode units) = text

instance (units : JsString) (text : String) : Decidable (Encodes units text) :=
  inferInstanceAs (Decidable (_ ∧ _))

theorem storedString_eq_ok {units : JsString} (clean : faults units = []) :
    storedString units = .ok (String.ofList (decode units)) := by
  rw [storedString, clean]

theorem faults_eq_nil {units : JsString} {text : String} (stores : storedString units = .ok text) :
    faults units = [] := by
  unfold storedString at stores
  split at stores
  next clean => exact clean
  · cases stores

/-- What is stored is what was sent. -/
theorem encodes_of_stored {units : JsString} {text : String}
    (stores : storedString units = .ok text) : Encodes units text := by
  have clean := faults_eq_nil stores
  rw [storedString_eq_ok clean] at stores
  exact ⟨by rw [clean]; exact List.not_mem_nil, Except.ok.inj stores⟩

/-! ## Numbers -/

/-- A number of a text, as JavaScript writes the double that it reads. `Infinity` is written as
`null`. -/
def jsNumber (mantissa exponent : Int) : Json :=
  let magnitude := Binary64.ofDecimal mantissa.natAbs exponent
  if magnitude < Binary64.limit then
    let decimal := Binary64.toDecimal magnitude
    .number (mantissa.sign * decimal.1) decimal.2
  else .null

/-- Two decimals are the same number. -/
def SameNumber (mantissa exponent mantissa' exponent' : Int) : Prop :=
  mantissa * 10 ^ (exponent - exponent').toNat = mantissa' * 10 ^ (exponent' - exponent).toNat

instance (mantissa exponent mantissa' exponent' : Int) :
    Decidable (SameNumber mantissa exponent mantissa' exponent') :=
  inferInstanceAs (Decidable (_ = _))

/-- The value is this number. -/
def isNumber (mantissa exponent : Int) : Json → Bool
  | .number mantissa' exponent' => SameNumber mantissa' exponent' mantissa exponent
  | _ => false

/-- JavaScript writes the number as it is. -/
def losslessNumber (mantissa exponent : Int) : Bool :=
  isNumber mantissa exponent (jsNumber mantissa exponent)

/-- Digits that are written with the sign of a number have its sign, unless they are zero. -/
theorem signed_digits {mantissa : Int} {digits : Nat} (zero : mantissa = 0 → digits = 0) :
    (mantissa.sign * digits).natAbs = digits ∧
      (mantissa.sign * digits).sign * digits = mantissa.sign * digits := by
  rcases Nat.eq_zero_or_pos digits with none' | more
  · simp [none']
  · rcases Int.lt_trichotomy mantissa 0 with negative | nothing | positive
    · rw [Int.sign_eq_neg_one_of_neg negative, Int.sign_eq_neg_one_of_neg (by omega)]
      exact ⟨by omega, rfl⟩
    · exact absurd (zero nothing) (Nat.ne_of_gt more)
    · rw [Int.sign_eq_one_of_pos positive, Int.sign_eq_one_of_pos (by omega)]
      exact ⟨by omega, rfl⟩

/-- **A number that JavaScript has written** is written so again. -/
theorem jsNumber_of_jsNumber {mantissa exponent mantissa' exponent' : Int}
    (writes : jsNumber mantissa exponent = .number mantissa' exponent') :
    jsNumber mantissa' exponent' = .number mantissa' exponent' := by
  unfold jsNumber at writes
  dsimp only at writes
  split at writes
  next finite =>
    cases writes
    have representable := Binary64.representable_ofDecimal mantissa.natAbs exponent
    have read := Binary64.ofDecimal_toDecimal representable
    generalize written : Binary64.toDecimal (Binary64.ofDecimal mantissa.natAbs exponent) = decimal
      at read
    have zero : mantissa = 0 → decimal.1 = 0 := by
      rintro rfl
      rw [Int.natAbs_zero, Binary64.ofDecimal_zero] at written
      rw [← written]
      rfl
    have digits := signed_digits zero
    unfold jsNumber
    dsimp only
    rw [digits.1, read, if_pos finite, written, digits.2]
  · cases writes

/-! ## Values -/

/-- A JSON value as a text has it. A number is `mantissa * 10 ^ exponent`. -/
inductive JsonText where
  | null
  | bool (value : Bool)
  | number (mantissa exponent : Int)
  | string (units : JsString)
  | array (items : List JsonText)
  | object (members : List (JsString × JsonText))

namespace JsonText

/-- A JSON string. -/
def IsString : JsonText → Prop
  | .string _ => True
  | _ => False

instance : DecidablePred IsString
  | .string _ => isTrue trivial
  | .null | .bool _ | .number .. | .array _ | .object _ => isFalse not_false

/-- The members after one more: a member with the same name is replaced. -/
def setMember (name : JsString) (value : JsonText) :
    List (JsString × JsonText) → List (JsString × JsonText)
  | [] => [(name, value)]
  | member :: rest =>
      if member.1 = name then (name, value) :: rest else member :: setMember name value rest

mutual

/-- `JSON.parse` takes the last one of the members with the same name. -/
def resolved : JsonText → JsonText
  | .array items => .array (resolvedItems items)
  | .object members => .object (resolvedMembers [] members)
  | value => value

def resolvedItems : List JsonText → List JsonText
  | [] => []
  | value :: rest => value.resolved :: resolvedItems rest

def resolvedMembers (before : List (JsString × JsonText)) :
    List (JsString × JsonText) → List (JsString × JsonText)
  | [] => before
  | (name, value) :: rest => resolvedMembers (setMember name value.resolved before) rest

end

mutual

/-- The value of `JSON.stringify(…)::jsonb`, or the message of the server. -/
def stored : JsonText → Except String Json
  | .null => .ok .null
  | .bool value => .ok (.bool value)
  | .number mantissa exponent => .ok (jsNumber mantissa exponent)
  | .string units => (storedString units).map .string
  | .array items => (storedItems items).map .array
  | .object members => (storedMembers members).map .object

def storedItems : List JsonText → Except String (List Json)
  | [] => .ok []
  | value :: rest => value.stored.bind fun column =>
      (storedItems rest).map (column :: ·)

def storedMembers : List (JsString × JsonText) → Except String (List (String × Json))
  | [] => .ok []
  | (name, value) :: rest => (storedString name).bind fun text => value.stored.bind fun column =>
      (storedMembers rest).map ((text, column) :: ·)

end

mutual

/-- Nothing is lost: JavaScript writes the numbers as they are, and the server takes the
strings. -/
def lossless : JsonText → Bool
  | .number mantissa exponent => losslessNumber mantissa exponent
  | .string units => (faults units).isEmpty
  | .array items => losslessItems items
  | .object members => losslessMembers members
  | _ => true

def losslessItems : List JsonText → Bool
  | [] => true
  | value :: rest => value.lossless && losslessItems rest

def losslessMembers : List (JsString × JsonText) → Bool
  | [] => true
  | (name, value) :: rest => (faults name).isEmpty && value.lossless && losslessMembers rest

end

end JsonText

mutual

/-- What the driver's `JSON.parse` makes of a column, as a response writes it. -/
def driverValue : Json → Json
  | .number mantissa exponent => jsNumber mantissa exponent
  | .array items => .array (driverItems items)
  | .object fields => .object (driverFields fields)
  | value => value

def driverItems : List Json → List Json
  | [] => []
  | value :: rest => driverValue value :: driverItems rest

def driverFields : List (String × Json) → List (String × Json)
  | [] => []
  | (name, value) :: rest => (name, driverValue value) :: driverFields rest

end

mutual

/-- The two denote the same value. -/
def SameValue : Json → JsonText → Prop
  | .null, .null => True
  | .bool value, .bool value' => value = value'
  | .number mantissa exponent, .number mantissa' exponent' =>
      SameNumber mantissa exponent mantissa' exponent'
  | .string text, .string units => Encodes units text
  | .array items, .array items' => SameItems items items'
  | .object fields, .object members => SameMembers fields members
  | _, _ => False

def SameItems : List Json → List JsonText → Prop
  | [], [] => True
  | value :: rest, value' :: rest' => SameValue value value' ∧ SameItems rest rest'
  | _, _ => False

def SameMembers : List (String × Json) → List (JsString × JsonText) → Prop
  | [], [] => True
  | (name, value) :: rest, (units, value') :: rest' =>
      Encodes units name ∧ SameValue value value' ∧ SameMembers rest rest'
  | _, _ => False

end

/-! ## There and back -/

/-- The number that a column has is the one of the text. -/
theorem same_number_iff {mantissa exponent : Int} {column : Json}
    (writes : jsNumber mantissa exponent = column) :
    SameValue (driverValue column) (.number mantissa exponent) ↔
      losslessNumber mantissa exponent = true := by
  rw [losslessNumber, writes]
  cases column with
  | number mantissa' exponent' =>
      rw [driverValue, jsNumber_of_jsNumber writes, SameValue, isNumber, decide_eq_true_eq]
  | null | bool | string | array | object => simp [driverValue, SameValue, isNumber]

open JsonText

mutual

/-- **A stored value comes back as it was sent** exactly when nothing of it is lost. -/
theorem same_iff_lossless : ∀ {value : JsonText} {column : Json}, value.stored = .ok column →
    (SameValue (driverValue column) value ↔ value.lossless = true)
  | .null, _, stores => by
      cases stores
      simp [driverValue, SameValue, lossless]
  | .bool _, _, stores => by
      cases stores
      simp [driverValue, SameValue, lossless]
  | .number _ _, column, stores => by
      rw [stored] at stores
      rw [lossless]
      exact same_number_iff (Except.ok.inj stores)
  | .string units, column, stores => by
      rw [stored] at stores
      cases text : storedString units with
      | error message =>
          rw [text] at stores
          cases stores
      | ok string =>
          rw [text] at stores
          cases stores
          simp only [driverValue, SameValue, lossless, faults_eq_nil text]
          exact iff_of_true (encodes_of_stored text) rfl
  | .array items, column, stores => by
      rw [stored] at stores
      cases columns : storedItems items with
      | error message =>
          rw [columns] at stores
          cases stores
      | ok list =>
          rw [columns] at stores
          cases stores
          rw [driverValue, SameValue, lossless]
          exact sameItems_iff columns
  | .object members, column, stores => by
      rw [stored] at stores
      cases columns : storedMembers members with
      | error message =>
          rw [columns] at stores
          cases stores
      | ok fields =>
          rw [columns] at stores
          cases stores
          rw [driverValue, SameValue, lossless]
          exact sameMembers_iff columns

theorem sameItems_iff : ∀ {items : List JsonText} {columns : List Json},
    storedItems items = .ok columns →
      (SameItems (driverItems columns) items ↔ losslessItems items = true)
  | [], _, stores => by
      cases stores
      simp [driverItems, SameItems, losslessItems]
  | value :: rest, columns, stores => by
      rw [storedItems] at stores
      cases first : value.stored with
      | error message =>
          rw [first] at stores
          cases stores
      | ok column =>
          cases others : storedItems rest with
          | error message =>
              rw [first, others] at stores
              cases stores
          | ok list =>
              rw [first, others] at stores
              cases stores
              rw [driverItems, SameItems, losslessItems, Bool.and_eq_true,
                same_iff_lossless first, sameItems_iff others]

theorem sameMembers_iff : ∀ {members : List (JsString × JsonText)}
    {fields : List (String × Json)}, storedMembers members = .ok fields →
      (SameMembers (driverFields fields) members ↔ losslessMembers members = true)
  | [], _, stores => by
      cases stores
      simp [driverFields, SameMembers, losslessMembers]
  | (name, value) :: rest, fields, stores => by
      rw [storedMembers] at stores
      cases text : storedString name with
      | error message =>
          rw [text] at stores
          cases stores
      | ok string =>
          cases first : value.stored with
          | error message =>
              rw [text, first] at stores
              cases stores
          | ok column =>
              cases others : storedMembers rest with
              | error message =>
                  rw [text, first, others] at stores
                  cases stores
              | ok list =>
                  rw [text, first, others] at stores
                  cases stores
                  rw [driverFields, SameMembers, losslessMembers, faults_eq_nil text,
                    Bool.and_eq_true, same_iff_lossless first, sameMembers_iff others]
                  simp [encodes_of_stored text]

end

mutual

/-- What loses nothing is stored. -/
theorem stored_of_lossless : ∀ (value : JsonText), value.lossless = true →
    ∃ column, value.stored = .ok column
  | .null => fun _ => ⟨_, rfl⟩
  | .bool _ => fun _ => ⟨_, rfl⟩
  | .number mantissa exponent => fun _ => ⟨jsNumber mantissa exponent, by rw [stored]⟩
  | .string units => by
      intro keeps
      rw [lossless, List.isEmpty_iff] at keeps
      exact ⟨_, by rw [stored, storedString_eq_ok keeps]; rfl⟩
  | .array items => by
      intro keeps
      rw [lossless] at keeps
      obtain ⟨columns, stores⟩ := storedItems_of_lossless items keeps
      exact ⟨_, by rw [stored, stores]; rfl⟩
  | .object members => by
      intro keeps
      rw [lossless] at keeps
      obtain ⟨fields, stores⟩ := storedMembers_of_lossless members keeps
      exact ⟨_, by rw [stored, stores]; rfl⟩

theorem storedItems_of_lossless : ∀ (items : List JsonText), losslessItems items = true →
    ∃ columns, storedItems items = .ok columns
  | [] => fun _ => ⟨_, rfl⟩
  | value :: rest => by
      intro keeps
      rw [losslessItems, Bool.and_eq_true] at keeps
      obtain ⟨column, first⟩ := stored_of_lossless value keeps.1
      obtain ⟨columns, others⟩ := storedItems_of_lossless rest keeps.2
      exact ⟨_, by rw [storedItems, first, others]; rfl⟩

theorem storedMembers_of_lossless : ∀ (members : List (JsString × JsonText)),
    losslessMembers members = true → ∃ fields, storedMembers members = .ok fields
  | [] => fun _ => ⟨_, rfl⟩
  | (name, value) :: rest => by
      intro keeps
      rw [losslessMembers, Bool.and_eq_true, Bool.and_eq_true, List.isEmpty_iff] at keeps
      obtain ⟨column, first⟩ := stored_of_lossless value keeps.1.2
      obtain ⟨fields, others⟩ := storedMembers_of_lossless rest keeps.2
      exact ⟨_, by rw [storedMembers, storedString_eq_ok keeps.1.1, first, others]; rfl⟩

end

/-- A number with too many digits, an infinite one and a string with U+0000 do not pass. -/
example : losslessNumber 200 0 = true ∧ losslessNumber 9007199254740993 0 = false ∧
    losslessNumber 1 400 = false ∧
    (JsonText.object [([97], .string [0])]).lossless = false := by
  decide +kernel

end Dashboard

end JobScheduler
