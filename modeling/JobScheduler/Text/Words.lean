import Mathlib.Computability.Language
import Mathlib.Data.List.DropRight
import Mathlib.Data.String.Basic

/-!
# Words joined by single separators

Texts over any alphabet, with a class of letters and a separator that is no letter. A joined
text is a word, or several with one separator between each two. It is the language of the
expression `letter+(sep letter+)*` (`mem_joinedLanguage`), and it is recognized by splitting at
the separator (`joined_iff_splitOn`).

Replacing every maximal run of other characters by the separator and then stripping the separator
from both ends makes a joined text of whatever contains a letter (`joined_normalize`), nothing of
what contains none (`normalize_eq_nil`), and leaves joined texts as they are (`Joined.normalize`).
-/

set_option autoImplicit false

open scoped Computability

namespace Text

variable {α : Type*}

/-! ## Replacing runs -/

/-- Replace every maximal run of characters in a class by one separator. The separator is written
at the end of the run. -/
def replaceRuns (p : α → Bool) (sep : α) : List α → List α
  | [] => []
  | c :: rest =>
      if p c then
        if rest.head?.any p then replaceRuns p sep rest else sep :: replaceRuns p sep rest
      else c :: replaceRuns p sep rest

/-- Remove the characters of a class from both ends. -/
def strip (p : α → Bool) (text : List α) : List α :=
  (text.dropWhile p).rdropWhile p

section Runs

variable {p : α → Bool} {sep c : α} {rest text : List α}

theorem replaceRuns_cons_of_not (other : p c = false) :
    replaceRuns p sep (c :: rest) = c :: replaceRuns p sep rest := by
  simp [replaceRuns, other]

/-- A run goes on, or its separator is written. -/
theorem replaceRuns_cons_of (inside : p c = true) :
    replaceRuns p sep (c :: rest) =
      if rest.head?.any p then replaceRuns p sep rest else sep :: replaceRuns p sep rest := by
  simp [replaceRuns, inside]

theorem replaceRuns_append_of_not (other : p c = false) (text : List α) :
    replaceRuns p sep (text ++ [c]) = replaceRuns p sep text ++ [c] := by
  induction text with
  | nil => simp [replaceRuns, other]
  | cons d rest ih =>
      have next : (rest ++ [c]).head?.any p = rest.head?.any p := by
        cases rest with
        | nil => simp [other]
        | cons e rest => rfl
      cases inside : p d with
      | true =>
          rw [List.cons_append, replaceRuns_cons_of inside, replaceRuns_cons_of inside, next, ih]
          split <;> simp
      | false =>
          rw [List.cons_append, replaceRuns_cons_of_not inside, replaceRuns_cons_of_not inside, ih,
            List.cons_append]

/-- A character of the class at the end prolongs a run or makes one. -/
theorem replaceRuns_append_of (sep : α) (inside : p c = true) (text : List α) :
    replaceRuns p sep (text ++ [c]) = replaceRuns p sep text ∨
      replaceRuns p sep (text ++ [c]) = replaceRuns p sep text ++ [sep] := by
  induction text with
  | nil => simp [replaceRuns, inside]
  | cons d rest ih =>
      cases within : p d with
      | true =>
          rw [List.cons_append, replaceRuns_cons_of within, replaceRuns_cons_of within]
          cases rest with
          | nil => simp [replaceRuns, inside]
          | cons e rest =>
              -- the next character is the same with and without the one at the end
              have next : ((e :: rest) ++ [c]).head?.any p = (e :: rest).head?.any p := rfl
              rw [next]
              split
              · exact ih
              · rcases ih with same | longer
                · exact .inl (by rw [same])
                · exact .inr (by rw [longer, List.cons_append])
      | false =>
          rw [List.cons_append, replaceRuns_cons_of_not within, replaceRuns_cons_of_not within]
          rcases ih with same | longer
          · exact .inl (by rw [same])
          · exact .inr (by rw [longer, List.cons_append])

theorem replaceRuns_eq_nil_iff : replaceRuns p sep text = [] ↔ text = [] := by
  induction text with
  | nil => simp [replaceRuns]
  | cons c rest ih =>
      cases inside : p c with
      | true =>
          rw [replaceRuns_cons_of inside]
          cases rest with
          | nil => simp
          | cons d rest =>
              simp only [reduceCtorEq, iff_false] at ih ⊢
              split
              · exact ih
              · simp
      | false => simp [replaceRuns_cons_of_not inside]

end Runs

/-! ## Stripping the ends -/

theorem strip_eq_nil_iff {p : α → Bool} {text : List α} :
    strip p text = [] ↔ ∀ c ∈ text, p c = true := by
  rw [strip, List.rdropWhile_eq_nil_iff]
  constructor
  · intro all c member
    rw [← List.takeWhile_append_dropWhile (p := p) (l := text)] at member
    rcases List.mem_append.mp member with early | late
    · exact List.mem_takeWhile_imp early
    · exact all c late
  · intro all c member
    exact all c ((List.dropWhile_sublist p).subset member)

section Ends

variable {p : α → Bool} {text : List α} {c : α}

theorem not_of_head?_strip (first : (strip p text).head? = some c) : p c = false := by
  -- what is stripped at the end leaves the first character
  obtain ⟨dropped, whole⟩ := List.rdropWhile_prefix p (l := text.dropWhile p)
  have kept := List.head?_dropWhile_not p text
  have same : (text.dropWhile p).head? = some c := by
    rw [← whole]
    rw [List.head?_append, ← strip, first, Option.some_or]
  rw [same] at kept
  exact kept

theorem not_of_getLast?_strip (last : (strip p text).getLast? = some c) : p c = false := by
  have filled : strip p text ≠ [] := by
    intro empty
    rw [empty] at last
    cases last
  have kept := List.rdropWhile_last_not p (text.dropWhile p) filled
  rw [List.getLast?_eq_some_getLast filled] at last
  rw [← Option.some.inj last]
  simpa [strip] using kept

end Ends

section Strip

variable [DecidableEq α] {p : α → Bool} {sep : α}

/-- Characters that a class tells apart are different. -/
theorem beq_eq_false_of_class {c d : α} (different : p c ≠ p d) : (c == d) = false := by
  rw [beq_eq_false_iff_ne]
  rintro rfl
  exact different rfl

theorem dropWhile_replaceRuns (separates : p sep = true) (text : List α) :
    (replaceRuns p sep text).dropWhile (· == sep) = replaceRuns p sep (text.dropWhile p) := by
  induction text with
  | nil => simp [replaceRuns]
  | cons c rest ih =>
      cases inside : p c with
      | true =>
          rw [replaceRuns_cons_of inside, List.dropWhile_cons_of_pos inside]
          split
          · exact ih
          · rw [List.dropWhile_cons_of_pos (by simp), ih]
      | false =>
          have different : (c == sep) = false :=
            beq_eq_false_of_class (p := p) (by simp [inside, separates])
          rw [replaceRuns_cons_of_not inside, List.dropWhile_cons_of_neg (by simp [different]),
            List.dropWhile_cons_of_neg (by simp [inside]), replaceRuns_cons_of_not inside]

theorem rdropWhile_replaceRuns (separates : p sep = true) (text : List α) :
    (replaceRuns p sep text).rdropWhile (· == sep) = replaceRuns p sep (text.rdropWhile p) := by
  induction text using List.reverseRecOn with
  | nil => simp [replaceRuns]
  | append_singleton init c ih =>
      cases inside : p c with
      | true =>
          rw [List.rdropWhile_concat_pos _ _ _ inside, ← ih]
          rcases replaceRuns_append_of sep inside init with same | longer
          · rw [same]
          · rw [longer, List.rdropWhile_concat_pos _ _ _ (by simp)]
      | false =>
          have different : (c == sep) = false :=
            beq_eq_false_of_class (p := p) (by simp [inside, separates])
          rw [replaceRuns_append_of_not inside,
            List.rdropWhile_concat_neg _ _ _ (by simp [different]),
            List.rdropWhile_concat_neg _ _ _ (by simp [inside]), replaceRuns_append_of_not inside]

/-- Stripping the separators that runs have become is stripping the runs. -/
theorem strip_replaceRuns (separates : p sep = true) (text : List α) :
    strip (· == sep) (replaceRuns p sep text) = replaceRuns p sep (strip p text) := by
  rw [strip, dropWhile_replaceRuns separates, rdropWhile_replaceRuns separates, strip]

end Strip

/-! ## Joined texts -/

section Joined

/-- Words of letters with one separator between each two. -/
inductive Joined (letter : α → Bool) (sep : α) : List α → Prop where
  | single {c : α} : letter c = true → Joined letter sep [c]
  | cons {c : α} {rest : List α} :
      letter c = true → Joined letter sep rest → Joined letter sep (c :: rest)
  | separated {c : α} {rest : List α} :
      letter c = true → Joined letter sep rest → Joined letter sep (c :: sep :: rest)

/-- A class of characters, as a language. -/
def letters (letter : α → Bool) : Language α := {text | ∃ c, letter c = true ∧ text = [c]}

/-- The expression `letter+`. -/
def words (letter : α → Bool) : Language α := letters letter * (letters letter)∗

/-- The expression `letter+(sep letter+)*`. -/
def joinedLanguage (letter : α → Bool) (sep : α) : Language α :=
  words letter * (({[sep]} : Language α) * words letter)∗

variable {letter : α → Bool} {sep : α}

namespace Joined

variable {text : List α}

theorem head_letter (joined : Joined letter sep text) :
    ∃ c rest, text = c :: rest ∧ letter c = true := by
  cases joined with
  | single holds => exact ⟨_, _, rfl, holds⟩
  | cons holds _ => exact ⟨_, _, rfl, holds⟩
  | separated holds _ => exact ⟨_, _, rfl, holds⟩

theorem last_letter (joined : Joined letter sep text) :
    ∃ init c, text = init ++ [c] ∧ letter c = true := by
  induction joined with
  | @single c holds => exact ⟨[], c, rfl, holds⟩
  | @cons c _ _ _ ih =>
      obtain ⟨init, last, rfl, holds⟩ := ih
      exact ⟨c :: init, last, rfl, holds⟩
  | @separated c _ _ _ ih =>
      obtain ⟨init, last, rfl, holds⟩ := ih
      exact ⟨c :: sep :: init, last, rfl, holds⟩

/-- A word before a joined text, without or with a separator. -/
theorem append {word : List α} (filled : word ≠ []) (letters : ∀ c ∈ word, letter c = true)
    (joined : Joined letter sep text) :
    Joined letter sep (word ++ text) ∧ Joined letter sep (word ++ sep :: text) := by
  induction word with
  | nil => exact absurd rfl filled
  | cons c rest ih =>
      have holds := letters c List.mem_cons_self
      cases rest with
      | nil => exact ⟨.cons holds joined, .separated holds joined⟩
      | cons d rest =>
          have both := ih (List.cons_ne_nil d rest)
            fun e member => letters e (List.mem_cons_of_mem c member)
          exact ⟨.cons holds both.1, .cons holds both.2⟩

theorem of_word {word : List α} (filled : word ≠ []) (letters : ∀ c ∈ word, letter c = true) :
    Joined letter sep word := by
  induction word with
  | nil => exact absurd rfl filled
  | cons c rest ih =>
      have holds := letters c List.mem_cons_self
      cases rest with
      | nil => exact .single holds
      | cons d rest =>
          exact .cons holds (ih (List.cons_ne_nil d rest)
            fun e member => letters e (List.mem_cons_of_mem c member))

theorem mem_cases (joined : Joined letter sep text) {c : α} (member : c ∈ text) :
    letter c = true ∨ c = sep := by
  induction joined with
  | single holds =>
      rw [List.mem_singleton.mp member]
      exact .inl holds
  | cons holds _ ih =>
      rcases List.mem_cons.mp member with rfl | later
      · exact .inl holds
      · exact ih later
  | separated holds _ ih =>
      rcases List.mem_cons.mp member with rfl | later
      · exact .inl holds
      · rcases List.mem_cons.mp later with rfl | later
        · exact .inr rfl
        · exact ih later

/-- A translation of the alphabet that keeps letters and separator apart. -/
theorem map_iff {β : Type*} {letter' : β → Bool} {sep' : β} {f : α → β}
    (letters : ∀ c ∈ text, letter' (f c) = letter c)
    (separators : ∀ c ∈ text, f c = sep' ↔ c = sep) :
    Joined letter' sep' (text.map f) ↔ Joined letter sep text := by
  constructor
  · intro joined
    generalize whole : text.map f = mapped at joined
    induction joined generalizing text with
    | single holds =>
        obtain ⟨c, rfl, rfl⟩ := List.map_eq_singleton_iff.mp whole
        exact .single (by rw [← letters c List.mem_cons_self, holds])
    | cons holds _ ih =>
        obtain ⟨c, rest, rfl, rfl, same⟩ := List.map_eq_cons_iff.mp whole
        rw [List.forall_mem_cons] at letters separators
        exact .cons (by rw [← letters.1, holds]) (ih letters.2 separators.2 same)
    | separated holds _ ih =>
        obtain ⟨c, others, rfl, rfl, same⟩ := List.map_eq_cons_iff.mp whole
        obtain ⟨d, rest, rfl, here, same⟩ := List.map_eq_cons_iff.mp same
        rw [List.forall_mem_cons, List.forall_mem_cons] at letters separators
        rw [separators.2.1.mp here]
        exact .separated (by rw [← letters.1, holds]) (ih letters.2.2 separators.2.2 same)
  · intro joined
    induction joined with
    | single holds => exact .single (by rw [letters _ List.mem_cons_self, holds])
    | cons holds _ ih =>
        rw [List.forall_mem_cons] at letters separators
        exact .cons (by rw [letters.1, holds]) (ih letters.2 separators.2)
    | separated holds _ ih =>
        rw [List.forall_mem_cons, List.forall_mem_cons] at letters separators
        rw [List.map_cons, List.map_cons, separators.2.1.mpr rfl]
        exact .separated (by rw [letters.1, holds]) (ih letters.2.2 separators.2.2)

end Joined

/-- One letter or more. -/
theorem mem_words {text : List α} :
    text ∈ words letter ↔ text ≠ [] ∧ ∀ c ∈ text, letter c = true := by
  rw [words, Language.mem_mul]
  constructor
  · rintro ⟨_, ⟨c, holds, rfl⟩, rest, more, rfl⟩
    obtain ⟨pieces, rfl, letters⟩ := Language.mem_kstar.mp more
    refine ⟨by simp, ?_⟩
    intro d member
    rcases List.mem_cons.mp member with rfl | later
    · exact holds
    · obtain ⟨piece, inside, here⟩ := List.mem_flatten.mp later
      obtain ⟨e, holds', rfl⟩ := letters piece inside
      rw [List.mem_singleton.mp here]
      exact holds'
  · rintro ⟨filled, letters⟩
    cases text with
    | nil => exact absurd rfl filled
    | cons c rest =>
        refine ⟨[c], ⟨c, letters c List.mem_cons_self, rfl⟩, rest, ?_, rfl⟩
        rw [Language.mem_kstar]
        refine ⟨rest.map fun d => [d], by rw [← List.flatMap_def, List.flatMap_singleton'], ?_⟩
        intro piece inside
        obtain ⟨d, member, rfl⟩ := List.mem_map.mp inside
        exact ⟨d, letters d (List.mem_cons_of_mem c member), rfl⟩

/-- The joined texts are the language of `letter+(sep letter+)*`. -/
theorem mem_joinedLanguage {text : List α} :
    text ∈ joinedLanguage letter sep ↔ Joined letter sep text := by
  rw [joinedLanguage, Language.mem_mul]
  constructor
  · rintro ⟨word, isWord, rest, more, rfl⟩
    obtain ⟨filled, letters⟩ := mem_words.mp isWord
    obtain ⟨pieces, rfl, separated⟩ := Language.mem_kstar.mp more
    clear more isWord
    -- the induction is on the words after the first
    induction pieces generalizing word with
    | nil =>
        rw [List.flatten_nil, List.append_nil]
        exact .of_word filled letters
    | cons piece pieces ih =>
        obtain ⟨_, rfl, word', isWord', rfl⟩ := Language.mem_mul.mp
          (separated piece List.mem_cons_self)
        obtain ⟨filled', letters'⟩ := mem_words.mp isWord'
        have rest := ih word' filled' letters'
          fun other member => separated other (List.mem_cons_of_mem _ member)
        have whole := (rest.append filled letters).2
        simpa using whole
  · intro joined
    induction joined with
    | @single c holds =>
        exact ⟨[c], mem_words.mpr ⟨by simp, by simpa using holds⟩, [],
          Language.nil_mem_kstar _, rfl⟩
    | @cons c rest holds _ ih =>
        obtain ⟨word, isWord, others, more, rfl⟩ := ih
        obtain ⟨_, letters⟩ := mem_words.mp isWord
        refine ⟨c :: word, mem_words.mpr ⟨by simp, ?_⟩, others, more, rfl⟩
        rw [List.forall_mem_cons]
        exact ⟨holds, letters⟩
    | @separated c rest holds _ ih =>
        obtain ⟨word, isWord, others, more, rfl⟩ := ih
        obtain ⟨pieces, rfl, separated⟩ := Language.mem_kstar.mp more
        refine ⟨[c], mem_words.mpr ⟨by simp, by simpa using holds⟩,
          sep :: (word ++ pieces.flatten), ?_, rfl⟩
        rw [Language.mem_kstar]
        refine ⟨(sep :: word) :: pieces, by simp, ?_⟩
        rw [List.forall_mem_cons]
        exact ⟨Language.mem_mul.mpr ⟨[sep], rfl, word, isWord, rfl⟩, separated⟩

variable [DecidableEq α]

/-- Splitting at the separator recognizes the joined texts. -/
theorem joined_iff_splitOn (separates : letter sep = false) {text : List α} :
    Joined letter sep text ↔
      ∀ part ∈ text.splitOn sep, part ≠ [] ∧ ∀ c ∈ part, letter c = true := by
  constructor
  · intro joined
    induction joined with
    | @single c holds =>
        have different : (c == sep) = false :=
          beq_eq_false_of_class (p := letter) (by simp [holds, separates])
        simp [List.splitOn_cons_eq_if_modifyHead, different, holds]
    | @cons c rest holds _ ih =>
        have different : (c == sep) = false :=
          beq_eq_false_of_class (p := letter) (by simp [holds, separates])
        rw [List.splitOn_cons_eq_if_modifyHead, different]
        cases parts : rest.splitOn sep with
        | nil => exact absurd parts (List.splitOn_ne_nil sep rest)
        | cons part others =>
            rw [parts, List.forall_mem_cons] at ih
            rw [if_neg (by simp), List.modifyHead_cons, List.forall_mem_cons,
              List.forall_mem_cons]
            exact ⟨⟨by simp, holds, ih.1.2⟩, ih.2⟩
    | @separated c rest holds _ ih =>
        have different : (c == sep) = false :=
          beq_eq_false_of_class (p := letter) (by simp [holds, separates])
        simp [List.splitOn_cons_eq_if_modifyHead, different, holds]
        simpa using ih
  · intro parts
    have whole : [sep].intercalate (text.splitOn sep) = text := List.intercalate_splitOn sep
    rw [← whole]
    have filled := List.splitOn_ne_nil sep text
    clear whole
    generalize text.splitOn sep = words at parts filled
    induction words with
    | nil => exact absurd rfl filled
    | cons word words ih =>
        rw [List.forall_mem_cons] at parts
        cases words with
        | nil =>
            rw [List.intercalate_singleton]
            exact .of_word parts.1.1 parts.1.2
        | cons next words =>
            rw [List.intercalate_cons_cons]
            have rest := ih parts.2 (List.cons_ne_nil next words)
            have whole := (rest.append parts.1.1 parts.1.2).2
            simpa using whole

end Joined

/-! ## Normal forms -/

theorem Joined.replaceRuns_eq {letter : α → Bool} {sep : α} {text : List α}
    (joined : Joined letter sep text) (separates : letter sep = false) :
    replaceRuns (fun c => !letter c) sep text = text := by
  induction joined with
  | single holds => rw [replaceRuns_cons_of_not (by simp [holds])]; rfl
  | cons holds _ ih => rw [replaceRuns_cons_of_not (by simp [holds]), ih]
  | separated holds rest ih =>
      obtain ⟨c, others, rfl, starts⟩ := rest.head_letter
      rw [replaceRuns_cons_of_not (by simp [holds]), replaceRuns_cons_of (by simp [separates]),
        if_neg (by simp [starts]), ih]

/-- What a text that ends in a letter becomes: joined if it begins with a letter too, and else
joined after a separator. -/
theorem replaceRuns_joined {letter : α → Bool} {sep : α} (text : List α) (last : α)
    (ends : text.getLast? = some last) (holds : letter last = true) :
    (∀ c, text.head? = some c → letter c = true →
      Joined letter sep (replaceRuns (fun c => !letter c) sep text)) ∧
    (∀ c, text.head? = some c → letter c = false →
      ∃ rest, replaceRuns (fun c => !letter c) sep text = sep :: rest ∧
        Joined letter sep rest) := by
  induction text with
  | nil => cases ends
  | cons c rest ih =>
      cases rest with
      | nil =>
          rw [List.getLast?_singleton] at ends
          cases ends
          refine ⟨fun d first _ => ?_, fun d first other => ?_⟩
          · rw [replaceRuns_cons_of_not (by simp [holds])]
            exact .single holds
          · cases first
            rw [holds] at other
            cases other
      | cons d rest =>
          rw [List.getLast?_cons_cons] at ends
          obtain ⟨begins, gap⟩ := ih ends
          refine ⟨fun _ first starts => ?_, fun _ first other => ?_⟩
          · cases first
            rw [replaceRuns_cons_of_not (by simp [starts])]
            cases next : letter d with
            | true => exact .cons starts (begins d rfl next)
            | false =>
                obtain ⟨others, whole, joined⟩ := gap d rfl next
                rw [whole]
                exact .separated starts joined
          · cases first
            rw [replaceRuns_cons_of (by simp [other])]
            cases next : letter d with
            | true =>
                rw [if_neg (by simp [next])]
                exact ⟨_, rfl, begins d rfl next⟩
            | false =>
                rw [if_pos (by simp [next])]
                exact gap d rfl next

section Normalize

variable [DecidableEq α]

/-- Replace the runs of other characters by the separator, and strip it from the ends. -/
def normalize (letter : α → Bool) (sep : α) (text : List α) : List α :=
  strip (· == sep) (replaceRuns (fun c => !letter c) sep text)

variable {letter : α → Bool} {sep : α} {text : List α}

theorem normalize_eq (separates : letter sep = false) :
    normalize letter sep text =
      replaceRuns (fun c => !letter c) sep (strip (fun c => !letter c) text) :=
  strip_replaceRuns (p := fun c => !letter c) (by simp [separates]) text

theorem normalize_eq_nil (separates : letter sep = false) :
    normalize letter sep text = [] ↔ ∀ c ∈ text, letter c = false := by
  rw [normalize_eq separates, replaceRuns_eq_nil_iff, strip_eq_nil_iff]
  simp

/-- **Normal forms are joined**, of every text that contains a letter. -/
theorem joined_normalize (separates : letter sep = false) :
    normalize letter sep text = [] ∨ Joined letter sep (normalize letter sep text) := by
  rw [normalize_eq separates, replaceRuns_eq_nil_iff]
  cases core : strip (fun c => !letter c) text with
  | nil => exact .inl rfl
  | cons c rest =>
      right
      have starts := not_of_head?_strip (c := c) (by rw [core, List.head?_cons])
      have ends := not_of_getLast?_strip
        (by rw [core, List.getLast?_eq_some_getLast (List.cons_ne_nil c rest)])
      refine (replaceRuns_joined _ _ (List.getLast?_eq_some_getLast (List.cons_ne_nil c rest)) ?_).1
        c List.head?_cons ?_
      · simpa using ends
      · simpa using starts

/-- **Joined texts are their own normal forms.** -/
theorem Joined.normalize_eq (joined : Joined letter sep text) (separates : letter sep = false) :
    normalize letter sep text = text := by
  rw [normalize, joined.replaceRuns_eq separates, strip]
  have different : ∀ c, letter c = true → (c == sep) = false := by
    intro c holds
    exact beq_eq_false_of_class (p := letter) (by simp [holds, separates])
  obtain ⟨c, rest, rfl, starts⟩ := joined.head_letter
  obtain ⟨init, last, whole, ends⟩ := joined.last_letter
  rw [List.dropWhile_cons_of_neg (by simp [different c starts]), whole,
    List.rdropWhile_concat_neg _ _ _ (by simp [different last ends])]

end Normalize

/-! ## Splitting strings -/

/-- The two loops of the standard library agree when the separator is one character. -/
theorem splitOnAux_singleton (s : String) (c : Char) (b i : String.Pos.Raw) (r : List String) :
    String.splitOnAux s (String.singleton c) b i 0 r = String.splitAux s (· == c) b i r := by
  have one : String.singleton c = String.ofList [c] := by simp
  have first : String.Pos.Raw.get (String.singleton c) 0 = c := by
    rw [one]
    exact String.get_of_valid [] [c]
  have next : String.Pos.Raw.next (String.singleton c) 0 = ⟨c.utf8Size⟩ := by
    rw [one]
    simpa using String.next_of_valid [] c []
  have atEnd : String.Pos.Raw.atEnd (String.singleton c) ⟨c.utf8Size⟩ = true := by
    rw [one]
    simp [String.Pos.Raw.atEnd]
  induction b, i, r using String.splitAux.induct s (· == c) with
  | case1 b i r ends =>
      unfold String.splitOnAux String.splitAux
      simp [ends]
  | case2 b i r goes shorter here i' ih =>
      have back : (String.Pos.Raw.next s i).unoffsetBy ⟨c.utf8Size⟩ = i := by
        rw [← beq_iff_eq.mp here]
        apply String.Pos.Raw.ext
        simp [String.Pos.Raw.next, String.Pos.Raw.unoffsetBy]
      unfold String.splitOnAux String.splitAux
      simp [goes, here, first, next, atEnd, back]
      exact ih
  | case3 b i r goes shorter other ih =>
      have back : i.unoffsetBy 0 = i := by
        apply String.Pos.Raw.ext
        simp [String.Pos.Raw.unoffsetBy]
      unfold String.splitOnAux String.splitAux
      simp [goes, other, first, back]
      exact ih

/-- `String.splitOn` at a separator of one character splits the list of characters. -/
theorem splitOn_singleton (s : String) (c : Char) :
    s.splitOn (String.singleton c) = (s.toList.splitOn c).map String.ofList := by
  have filled : (String.singleton c == "") = false := by simp
  rw [String.splitOn, filled, splitOnAux_singleton, List.splitOn_eq_splitOnP]
  exact String.splitToList_of_valid s (· == c)

end Text
