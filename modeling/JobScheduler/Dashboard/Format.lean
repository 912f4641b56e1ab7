import JobScheduler.Api.Handlers
import JobScheduler.Dashboard.Json

/-!
# Names and slugs

`slugifyName` of `dashboard/src/lib/format.ts`, which the form for a new queue proposes slugs
with, against `slugRe`, which the server checks them with.

A JavaScript string is a list of UTF-16 code units, paired or not. The regular expressions work on
code units. `toLowerCase` is a parameter, with what is used of it: it lowers `A` to `Z` and leaves
the other ASCII characters, and it leaves white space at the ends, whatever is between. The server
sees the string decoded, with a replacement character for a surrogate without a partner.
-/

set_option autoImplicit false

namespace JobScheduler

namespace Dashboard

open Text

/-! ## Strings -/

/-- The white space and line terminators that `trim` removes. -/
def whiteSpace (u : UInt16) : Bool :=
  u ∈ [0x09, 0x0A, 0x0B, 0x0C, 0x0D, 0x20, 0xA0, 0x1680, 0x2028, 0x2029, 0x202F, 0x205F, 0x3000,
    0xFEFF] || (0x2000 ≤ u && u ≤ 0x200A)

/-- A code unit in the class `[a-z0-9]`. -/
def slugUnit (u : UInt16) : Bool := (97 ≤ u && u ≤ 122) || (48 ≤ u && u ≤ 57)

/-- The hyphen. -/
def hyphen : UInt16 := 45

/-- The lower case of an ASCII character. -/
def asciiLower (u : UInt16) : UInt16 := if 65 ≤ u && u ≤ 90 then u + 32 else u

/-- `toLowerCase`. -/
structure CaseMapping where
  toLowerCase : JsString → JsString
  ascii : ∀ text : JsString, (∀ u ∈ text, u < 128) → toLowerCase text = text.map asciiLower
  white : ∀ before text after : JsString, (∀ u ∈ before, whiteSpace u = true) →
    (∀ u ∈ after, whiteSpace u = true) →
      toLowerCase (before ++ text ++ after) = before ++ toLowerCase text ++ after

/-- `slugifyName`. -/
def slugifyName (cases : CaseMapping) (name : JsString) : JsString :=
  let trimmed := strip whiteSpace name
  let lower := cases.toLowerCase trimmed
  let dashed := replaceRuns (fun u => !slugUnit u) hyphen lower
  strip (· == hyphen) dashed

/-! ## Decoding -/

theorem toNat_ofNat {n : Nat} (valid : n.isValidChar) : (Char.ofNat n).toNat = n := by
  rw [Char.ofNat, dif_pos valid]
  rfl

/-- Units that are decoded alone, and come out as ASCII, are ASCII themselves. -/
theorem lt_of_unitChar_lt {u : UInt16} (ascii : (unitChar u).toNat < 128) : u < 128 := by
  unfold unitChar surrogate at ascii
  split at ascii
  · exact absurd ascii (by decide)
  next alone =>
    have units := u.toNat_lt
    rw [toNat_ofNat] at ascii
    · exact UInt16.lt_iff_toNat_lt.mpr ascii
    · simp [UInt16.le_iff_toNat_le] at alone
      unfold Nat.isValidChar
      omega

/-- What is decoded to ASCII only has been ASCII, one character for each unit. -/
theorem lt_of_decode_lt (text : JsString) (ascii : ∀ c ∈ decode text, c.toNat < 128) :
    ∀ u ∈ text, u < 128 := by
  induction text using decode.induct with
  | case1 => simp
  | case2 u =>
      simp only [decode, List.mem_singleton, forall_eq] at ascii ⊢
      exact lt_of_unitChar_lt ascii
  | case3 u v rest pair ih =>
      rw [decode, if_pos pair, List.forall_mem_cons] at ascii
      simp [UInt16.le_iff_toNat_le] at pair
      rw [toNat_ofNat] at ascii
      · omega
      · unfold Nat.isValidChar
        omega
  | case4 u v rest single ih =>
      rw [decode, if_neg single, List.forall_mem_cons] at ascii
      rw [List.forall_mem_cons]
      exact ⟨lt_of_unitChar_lt ascii.1, ih ascii.2⟩

theorem decode_of_lt (text : JsString) (ascii : ∀ u ∈ text, u < 128) :
    decode text = text.map unitChar := by
  induction text using decode.induct with
  | case1 => rfl
  | case2 u => rfl
  | case3 u v rest pair ih =>
      have small := ascii u List.mem_cons_self
      simp [UInt16.le_iff_toNat_le, UInt16.lt_iff_toNat_lt] at pair small
      omega
  | case4 u v rest single ih =>
      rw [List.forall_mem_cons] at ascii
      rw [decode, if_neg single, ih ascii.2]
      rfl

/-- A property of the ASCII units, checked one after the other. -/
theorem forall_ascii {P : UInt16 → Prop} (table : ∀ n < 128, P (UInt16.ofNat n))
    {u : UInt16} (ascii : u < 128) : P u := by
  have here := table u.toNat (UInt16.lt_iff_toNat_lt.mp ascii)
  rwa [UInt16.ofNat_toNat] at here

/-- The two classes agree on ASCII, and so do the two hyphens. -/
theorem unitChar_classes {u : UInt16} (ascii : u < 128) :
    slugChar (unitChar u) = slugUnit u ∧ (unitChar u = '-' ↔ u = hyphen) := by
  exact forall_ascii
    (P := fun u => slugChar (unitChar u) = slugUnit u ∧ (unitChar u = '-' ↔ u = hyphen))
    (by decide) ascii

theorem slugChar_toNat_lt {c : Char} (letter : slugChar c = true) : c.toNat < 128 := by
  rcases Bool.or_eq_true_iff.mp letter with lower | digit
  · have bound : c.val ≤ 'z'.val := of_decide_eq_true (Bool.and_eq_true_iff.mp lower).2
    exact lt_of_le_of_lt (UInt32.le_iff_toNat_le.mp bound) (by decide)
  · have bound : c.val ≤ '9'.val := of_decide_eq_true (Bool.and_eq_true_iff.mp digit).2
    exact lt_of_le_of_lt (UInt32.le_iff_toNat_le.mp bound) (by decide)

theorem slugUnit_lt {u : UInt16} (letter : slugUnit u = true) : u < 128 := by
  simp [slugUnit, UInt16.le_iff_toNat_le] at letter
  rw [UInt16.lt_iff_toNat_lt]
  simp
  omega

theorem joined_ascii {text : JsString} (joined : Joined slugUnit hyphen text) :
    ∀ u ∈ text, u < 128 := by
  intro u member
  rcases joined.mem_cases member with letter | rfl
  · exact slugUnit_lt letter
  · decide

/-- The server accepts the strings that are joined words of code units. -/
theorem validSlug_decode_iff {text : JsString} :
    validSlug (String.ofList (decode text)) = true ↔ Joined slugUnit hyphen text := by
  rw [validSlug_iff, String.toList_ofList]
  have translated : (∀ u ∈ text, u < 128) →
      (Joined slugChar '-' (decode text) ↔ Joined slugUnit hyphen text) := by
    intro ascii
    rw [decode_of_lt text ascii]
    exact Joined.map_iff (fun u member => (unitChar_classes (ascii u member)).1)
      fun u member => (unitChar_classes (ascii u member)).2
  constructor
  · intro joined
    refine (translated (lt_of_decode_lt text fun c member => ?_)).mp joined
    rcases joined.mem_cases member with letter | rfl
    · exact slugChar_toNat_lt letter
    · decide
  · intro joined
    exact (translated (joined_ascii joined)).mpr joined

/-! ## What `slugifyName` returns -/

variable (cases : CaseMapping)

theorem slugifyName_eq (name : JsString) :
    slugifyName cases name =
      normalize slugUnit hyphen (cases.toLowerCase (strip whiteSpace name)) := rfl

/-- Slug characters are no white space. -/
theorem whiteSpace_of_slugUnit {u : UInt16} (letter : slugUnit u = true) :
    whiteSpace u = false := by
  have ascii : slugUnit u = true → whiteSpace u = false :=
    forall_ascii (P := fun u => slugUnit u = true → whiteSpace u = false) (by decide)
      (slugUnit_lt letter)
  exact ascii letter

theorem slugUnit_of_whiteSpace {u : UInt16} (white : whiteSpace u = true) :
    slugUnit u = false := by
  by_contra letter
  rw [Bool.not_eq_false] at letter
  rw [whiteSpace_of_slugUnit letter] at white
  cases white

/-- A slug keeps its ends when it is trimmed and its letters when it is lowered. -/
theorem toLowerCase_strip_of_joined {text : JsString} (joined : Joined slugUnit hyphen text) :
    cases.toLowerCase (strip whiteSpace text) = text := by
  have kept : strip whiteSpace text = text := by
    obtain ⟨first, rest, whole, starts⟩ := joined.head_letter
    obtain ⟨init, last, whole', ends⟩ := joined.last_letter
    have dropped : text.dropWhile whiteSpace = text := by
      rw [whole, List.dropWhile_cons_of_neg (by simp [whiteSpace_of_slugUnit starts])]
    rw [strip, dropped, whole',
      List.rdropWhile_concat_neg _ _ _ (by simp [whiteSpace_of_slugUnit ends])]
  have lowered : text.map asciiLower = text := by
    refine (List.map_congr_left fun u member => ?_).trans (List.map_id text)
    have lower : slugUnit u = true ∨ u = hyphen → asciiLower u = u :=
      forall_ascii (P := fun u => slugUnit u = true ∨ u = hyphen → asciiLower u = u)
        (by decide) (joined_ascii joined u member)
    exact lower (joined.mem_cases member)
  rw [kept, cases.ascii text (joined_ascii joined), lowered]

theorem slugifyName_of_joined {text : JsString} (joined : Joined slugUnit hyphen text) :
    slugifyName cases text = text := by
  rw [slugifyName_eq, toLowerCase_strip_of_joined cases joined,
    joined.normalize_eq (by decide)]

theorem joined_slugifyName (name : JsString) :
    slugifyName cases name = [] ∨ Joined slugUnit hyphen (slugifyName cases name) := by
  rw [slugifyName_eq]
  exact joined_normalize (by decide)

/-- What is trimmed is white space, before and after its lower case is taken. -/
theorem slugifyName_eq_nil_iff (name : JsString) :
    slugifyName cases name = [] ↔ ∀ u ∈ cases.toLowerCase name, slugUnit u = false := by
  have parts : name = name.takeWhile whiteSpace ++ strip whiteSpace name ++
      (name.dropWhile whiteSpace).rtakeWhile whiteSpace := by
    rw [List.append_assoc, strip, List.rdropWhile_append_rtakeWhile,
      List.takeWhile_append_dropWhile]
  have before : ∀ u ∈ name.takeWhile whiteSpace, whiteSpace u = true :=
    fun _ member => List.mem_takeWhile_imp member
  have after : ∀ u ∈ (name.dropWhile whiteSpace).rtakeWhile whiteSpace, whiteSpace u = true :=
    fun _ member => List.mem_rtakeWhile_imp member
  have lower := cases.white _ (strip whiteSpace name) _ before after
  rw [← parts] at lower
  rw [slugifyName_eq, normalize_eq_nil (by decide), lower]
  constructor
  · intro none u member
    rcases List.mem_append.mp member with early | late
    · rcases List.mem_append.mp early with first | middle
      · exact slugUnit_of_whiteSpace (before u first)
      · exact none u middle
    · exact slugUnit_of_whiteSpace (after u late)
  · intro none u member
    exact none u (List.mem_append_left _ (List.mem_append_right _ member))

/-- **The generated slugs are the accepted ones.** Every slug that the form proposes is empty or
one that the server accepts; it is empty exactly when the lower-cased name has no character of a
slug; and a slug that the server accepts is proposed for itself, so proposing twice changes
nothing. -/
theorem generated_slugs_accepted :
    (∀ name, slugifyName cases name = [] ∨
      validSlug (String.ofList (decode (slugifyName cases name))) = true) ∧
    (∀ name, slugifyName cases name = [] ↔
      ∀ u ∈ cases.toLowerCase name, slugUnit u = false) ∧
    (∀ slug, validSlug (String.ofList (decode slug)) = true → slugifyName cases slug = slug) ∧
    ∀ name, slugifyName cases (slugifyName cases name) = slugifyName cases name := by
  refine ⟨?_, slugifyName_eq_nil_iff cases, ?_, ?_⟩
  · intro name
    rw [validSlug_decode_iff]
    exact joined_slugifyName cases name
  · intro slug accepted
    exact slugifyName_of_joined cases (validSlug_decode_iff.mp accepted)
  · intro name
    rcases joined_slugifyName cases name with empty | joined
    · rw [empty, slugifyName_eq_nil_iff, cases.ascii [] (by simp)]
      simp
    · exact slugifyName_of_joined cases joined

/-- A case mapping that knows ASCII only. -/
def asciiCases : CaseMapping where
  toLowerCase text := text.map asciiLower
  ascii _ _ := rfl
  white before text after whiteBefore whiteAfter := by
    have unchanged : ∀ u, whiteSpace u = true → asciiLower u = u := by
      intro u white
      by_cases ascii : u < 128
      · have lower : whiteSpace u = true → asciiLower u = u :=
          forall_ascii (P := fun u => whiteSpace u = true → asciiLower u = u) (by decide)
            ascii
        exact lower white
      · have beyond : ¬ (65 ≤ u && u ≤ 90) = true := by
          simp [UInt16.le_iff_toNat_le, UInt16.lt_iff_toNat_lt] at ascii ⊢
          omega
        rw [asciiLower, if_neg beyond]
    have same : ∀ part : JsString, (∀ u ∈ part, whiteSpace u = true) →
        part.map asciiLower = part := by
      intro part white
      refine (List.map_congr_left fun u member => ?_).trans (List.map_id part)
      exact unchanged u (white u member)
    rw [List.map_append, List.map_append, same before whiteBefore, same after whiteAfter]

example : slugifyName asciiCases ("  Email — Queue #2 ".toList.map fun c => UInt16.ofNat c.toNat) =
    "email-queue-2".toList.map fun c => UInt16.ofNat c.toNat := by
  decide

end Dashboard

end JobScheduler
