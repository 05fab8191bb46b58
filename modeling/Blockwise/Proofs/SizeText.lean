import Mathlib.Data.List.Basic
import Mathlib.Data.List.Induction
import Mathlib.Data.List.TakeWhile
import Mathlib.Data.Nat.Digits.Defs
import Blockwise.Settings.Override

/-!
# SizeText — which texts state a chunk size

The override of the chunk size is a small language: a run of decimal digits and a unit, with blanks
around them. This module states the language without the reader (`States`): what the core of a text
is that has blanks around it, what the digits are worth by their places, and which units there are.
The reader goes through the digits with words of 64 bits and gives up if one is too small for a
value, and once more when the unit is multiplied in. Both times it gives up on numbers that are far
out of the limits anyway, so the settings are those that the language says.

## Results

* `Text.isCore_iff` — trimming a text leaves its core.
* `decimalValue?_eq` — digits have the value of their places, unless that is too large for a word.
* `readSize?_eq_some_iff` — the reader accepts exactly the language, up to the largest word.
* `Settings.override_follows_language` — the settings under every text.
-/

namespace Blockwise

/-! ## Blanks around a text -/

namespace Text

/-- What remains of a text when the blanks around it are taken away: there are only blanks around
it, and it has none at its own ends. -/
structure IsCore (text core : List Char) : Prop where
  exists_blanks : ∃ before after, text = before ++ core ++ after ∧
    (∀ c ∈ before, isBlank c = true) ∧ ∀ c ∈ after, isBlank c = true
  head : ∀ c ∈ core.head?, isBlank c = false
  last : ∀ c ∈ core.getLast?, isBlank c = false

/-- Nothing is dropped from a text that does not begin with a blank. -/
theorem dropWhile_eq_self {text : List Char} (h : ∀ c ∈ text.head?, isBlank c = false) :
    text.dropWhile isBlank = text := by
  cases text with
  | nil => rfl
  | cons c text =>
    have hc : ¬ isBlank c = true := Bool.eq_false_iff.mp (h c rfl)
    rw [List.dropWhile_cons, if_neg hc]

/-- What is dropped are blanks, and what is left begins with none. -/
theorem exists_dropWhile (text : List Char) :
    ∃ blanks, text = blanks ++ text.dropWhile isBlank ∧ (∀ c ∈ blanks, isBlank c = true) ∧
      ∀ c ∈ (text.dropWhile isBlank).head?, isBlank c = false := by
  refine ⟨text.takeWhile isBlank, List.takeWhile_append_dropWhile.symm,
    fun c hc => List.mem_takeWhile_imp hc, ?_⟩
  intro c hc
  have hhead := List.head?_dropWhile_not isBlank text
  rw [Option.mem_def.mp hc] at hhead
  simpa using hhead

theorem isCore_trimBlanks (text : List Char) : IsCore text (trimBlanks text) := by
  obtain ⟨before, htext, hbefore, hhead⟩ := exists_dropWhile text
  obtain ⟨after, hrest, hafter, hlast⟩ := exists_dropWhile (text.dropWhile isBlank).reverse
  -- read backwards, the second step is the first one again
  have hsplit : text.dropWhile isBlank = trimBlanks text ++ after.reverse := by
    have hreversed := congrArg List.reverse hrest
    rwa [List.reverse_reverse, List.reverse_append] at hreversed
  refine ⟨⟨before, after.reverse, ?_, hbefore, ?_⟩, ?_, ?_⟩
  · rw [List.append_assoc, ← hsplit]
    exact htext
  · intro c hc
    exact hafter c (List.mem_reverse.mp hc)
  · intro c hc
    refine hhead c ?_
    rw [hsplit]
    exact List.mem_head?_append_of_mem_head? hc
  · intro c hc
    refine hlast c ?_
    rw [trimBlanks, List.getLast?_reverse] at hc
    exact hc

theorem isCore_iff {text core : List Char} : IsCore text core ↔ trimBlanks text = core := by
  constructor
  · rintro ⟨⟨before, after, rfl, hbefore, hafter⟩, hhead, hlast⟩
    have hfront : (before ++ core ++ after).dropWhile isBlank =
        (core ++ after).dropWhile isBlank := by
      rw [List.append_assoc, List.dropWhile_append_of_pos hbefore]
    have hback : ∀ c ∈ after.reverse, isBlank c = true := by
      intro c hc
      exact hafter c (List.mem_reverse.mp hc)
    rw [trimBlanks, hfront]
    cases core with
    | nil =>
      -- there are only blanks
      have hnone : after.dropWhile isBlank = [] := List.dropWhile_eq_nil_iff.mpr hafter
      rw [List.nil_append, hnone]
      rfl
    | cons c core =>
      have hstart : (c :: core ++ after).dropWhile isBlank = c :: core ++ after :=
        dropWhile_eq_self hhead
      have hend : (c :: core).reverse.dropWhile isBlank = (c :: core).reverse := by
        refine dropWhile_eq_self ?_
        rw [List.head?_reverse]
        exact hlast
      rw [hstart, List.reverse_append, List.dropWhile_append_of_pos hback, hend,
        List.reverse_reverse]
  · rintro rfl
    exact isCore_trimBlanks text

end Text

/-! ## Values of digits -/

/-- The value of decimal digits by their places, the last of which counts ones. -/
def numeral (digits : List Char) : Nat :=
  Nat.ofDigits 10 (digits.reverse.map digitValue)

theorem numeral_concat (digits : List Char) (digit : Char) :
    numeral (digits ++ [digit]) = 10 * numeral digits + digitValue digit := by
  unfold numeral
  rw [List.reverse_append, List.reverse_singleton, List.singleton_append, List.map_cons,
    Nat.ofDigits_cons]
  omega

theorem word?_eq_some_iff {number value : Nat} :
    word? number = some value ↔ number = value ∧ number < UInt64.size := by
  unfold word?
  split
  · rename_i hfits
    simp only [Option.some.injEq, hfits, and_true]
  · rename_i hlarge
    simp only [reduceCtorEq, hlarge, and_false]

/-- A number that does not fit into a word has no multiples that do. -/
theorem word?_bind_mul {factor : Nat} (h : 0 < factor) (number : Nat) :
    (word? number).bind (fun value => word? (value * factor)) = word? (number * factor) := by
  unfold word?
  split
  · rfl
  · rename_i hlarge
    have hle : number ≤ number * factor := Nat.le_mul_of_pos_right number h
    rw [if_neg (by omega)]
    rfl

theorem appendDigit?_eq (value : Nat) (digit : Char) :
    appendDigit? value digit = word? (10 * value + digitValue digit) := by
  show (word? (10 * value)).bind (fun shifted => word? (shifted + digitValue digit)) = _
  unfold word?
  split
  · rfl
  · rename_i hlarge
    rw [if_neg (by omega)]
    rfl

/-- Digits have the value of their places, as long as that fits into a word. Nothing is lost by
giving up on the way: with more digits a value only grows. -/
theorem decimalValue?_eq (digits : List Char) : decimalValue? digits = word? (numeral digits) := by
  -- digits are read from the front, so the induction takes the last one off
  induction digits using List.reverseRecOn with
  | nil => rfl
  | append_singleton digits digit ih =>
    have hstep : decimalValue? (digits ++ [digit]) =
        (decimalValue? digits).bind (appendDigit? · digit) := by
      unfold decimalValue?
      rw [List.foldlM_append]
      refine bind_congr fun value => ?_
      simp
    rw [hstep, ih, numeral_concat]
    by_cases hfits : numeral digits < UInt64.size
    · have hword : word? (numeral digits) = some (numeral digits) := if_pos hfits
      rw [hword, Option.bind_some, appendDigit?_eq]
    · have hword : word? (numeral digits) = none := if_neg hfits
      have hlarge : word? (10 * numeral digits + digitValue digit) = none := if_neg (by omega)
      rw [hword, hlarge]
      rfl

/-! ## Sizes -/

/-- The units, and how many bytes each of them stands for. -/
def sizeUnits : List (String × Nat) :=
  [("", 1), ("K", 2 ^ 10), ("KB", 2 ^ 10), ("KiB", 2 ^ 10), ("M", 2 ^ 20), ("MB", 2 ^ 20),
    ("MiB", 2 ^ 20)]

theorem unitSize?_eq_some_iff {suffix : List Char} {unit : Nat} :
    unitSize? suffix = some unit ↔ ∃ name, name.toList = suffix ∧ (name, unit) ∈ sizeUnits := by
  constructor
  · intro h
    unfold unitSize? at h
    split at h
    all_goals cases h
    · exact ⟨"", rfl, by decide⟩
    · exact ⟨"K", rfl, by decide⟩
    · exact ⟨"KB", rfl, by decide⟩
    · exact ⟨"KiB", rfl, by decide⟩
    · exact ⟨"M", rfl, by decide⟩
    · exact ⟨"MB", rfl, by decide⟩
    · exact ⟨"MiB", rfl, by decide⟩
  · rintro ⟨name, rfl, hmem⟩
    simp only [sizeUnits, List.mem_cons, Prod.mk.injEq, List.not_mem_nil, or_false] at hmem
    rcases hmem with ⟨rfl, rfl⟩ | ⟨rfl, rfl⟩ | ⟨rfl, rfl⟩ | ⟨rfl, rfl⟩ | ⟨rfl, rfl⟩ | ⟨rfl, rfl⟩ |
      ⟨rfl, rfl⟩
    all_goals rfl

/-- No unit begins with a digit, and none stands for nothing. -/
theorem of_unitSize?_eq_some {suffix : List Char} {unit : Nat} (h : unitSize? suffix = some unit) :
    suffix.takeWhile Char.isDigit = [] ∧ suffix.dropWhile Char.isDigit = suffix ∧ 0 < unit := by
  unfold unitSize? at h
  split at h
  all_goals cases h
  all_goals decide

/-- The text is decimal digits, at least one, and a unit. -/
inductive IsSize : List Char → Nat → Nat → Prop where
  | intro {digits : List Char} {name : String} {unit : Nat} (hne : digits ≠ [])
    (hdigits : ∀ digit ∈ digits, digit.isDigit = true) (hunit : (name, unit) ∈ sizeUnits) :
    IsSize (digits ++ name.toList) (numeral digits) unit

theorem readSize?_of_isSize {text : List Char} {value unit : Nat} (h : IsSize text value unit) :
    readSize? text = word? (value * unit) := by
  obtain ⟨hne, hdigits, hunit⟩ := h
  rename_i digits name
  have hsuffix : unitSize? name.toList = some unit := unitSize?_eq_some_iff.mpr ⟨name, rfl, hunit⟩
  obtain ⟨htake, hdrop, hpos⟩ := of_unitSize?_eq_some hsuffix
  have hfront : (digits ++ name.toList).takeWhile Char.isDigit = digits := by
    rw [List.takeWhile_append_of_pos hdigits, htake, List.append_nil]
  have hback : (digits ++ name.toList).dropWhile Char.isDigit = name.toList := by
    rw [List.dropWhile_append_of_pos hdigits, hdrop]
  unfold readSize?
  rw [hfront, hback, hsuffix]
  cases digits with
  | nil => exact absurd rfl hne
  | cons digit digits =>
    show (decimalValue? (digit :: digits)).bind (fun value => word? (value * unit)) = _
    rw [decimalValue?_eq]
    exact word?_bind_mul hpos _

/-- The reader accepts exactly the sizes that fit into a word. -/
theorem readSize?_eq_some_iff {text : List Char} {size : Nat} :
    readSize? text = some size ↔
      ∃ value unit, IsSize text value unit ∧ value * unit = size ∧ size < UInt64.size := by
  constructor
  · intro h
    have hread := h
    unfold readSize? at h
    split at h
    · cases h
    · rename_i hne
      obtain ⟨value, hvalue, h⟩ := Option.bind_eq_some_iff.mp h
      obtain ⟨unit, hunit, h⟩ := Option.bind_eq_some_iff.mp h
      obtain ⟨name, hname, hmem⟩ := unitSize?_eq_some_iff.mp hunit
      have hall : ∀ digit ∈ text.takeWhile Char.isDigit, digit.isDigit = true :=
        fun digit hdigit => List.mem_takeWhile_imp hdigit
      have htext : IsSize (text.takeWhile Char.isDigit ++ name.toList) _ unit :=
        .intro hne hall hmem
      rw [hname, List.takeWhile_append_dropWhile] at htext
      rw [readSize?_of_isSize htext] at hread
      obtain ⟨hsize, hfits⟩ := word?_eq_some_iff.mp hread
      exact ⟨_, unit, htext, hsize, hsize ▸ hfits⟩
  · rintro ⟨value, unit, htext, rfl, hfits⟩
    rw [readSize?_of_isSize htext]
    exact if_pos hfits

/-! ## Settings -/

namespace Settings

theorem ofChunkSize_eq_ok_iff {size : Nat} {settings : Settings} :
    ofChunkSize size = .ok settings ↔
      settings.chunkSize = size ∧ 1 ≤ size ∧ size ≤ 64 * 2 ^ 20 := by
  have hmax : maxChunkSize = 64 * 2 ^ 20 := rfl
  constructor
  · intro h
    unfold ofChunkSize at h
    split at h
    · rename_i hwithin
      cases h
      rw [hmax] at hwithin
      exact ⟨rfl, hwithin⟩
    · cases h
  · rintro ⟨rfl, hpos, hle⟩
    exact dif_pos ⟨hpos, hle⟩

theorem toOption_ofChunkSize_eq_some_iff {size : Nat} {settings : Settings} :
    (ofChunkSize size).toOption = some settings ↔
      settings.chunkSize = size ∧ 1 ≤ size ∧ size ≤ 64 * 2 ^ 20 := by
  rw [← ofChunkSize_eq_ok_iff]
  cases ofChunkSize size <;> simp [Except.toOption]

/-- The text states a number of units: it is a size with blanks around it. -/
def States (text : String) (value unit : Nat) : Prop :=
  ∃ core, Text.IsCore text.toList core ∧ IsSize core value unit

/-- The settings that a program can come by. -/
inductive Obtainable : Settings → Prop where
  | asked {size : Nat} {settings : Settings} (h : ofChunkSize size = .ok settings) :
    Obtainable settings
  | default : Obtainable .default
  | override (text : Option String) : Obtainable (ofOverride text).1

theorem read?_eq_some_iff {text : String} {settings : Settings} :
    read? text = some settings ↔
      ∃ value unit, States text value unit ∧ value * unit = settings.chunkSize ∧
        1 ≤ value * unit ∧ value * unit ≤ 64 * 2 ^ 20 := by
  have hread : read? text = (readSize? (Text.trimBlanks text.toList)).bind
      fun size => (ofChunkSize size).toOption := rfl
  rw [hread, Option.bind_eq_some_iff]
  constructor
  · rintro ⟨size, hsize, hsettings⟩
    obtain ⟨value, unit, hcore, rfl, -⟩ := readSize?_eq_some_iff.mp hsize
    rw [toOption_ofChunkSize_eq_some_iff] at hsettings
    obtain ⟨hchunk, hwithin⟩ := hsettings
    exact ⟨value, unit, ⟨_, Text.isCore_trimBlanks _, hcore⟩, hchunk.symm, hwithin⟩
  · rintro ⟨value, unit, ⟨core, htrim, hcore⟩, hchunk, hpos, hle⟩
    rw [Text.isCore_iff.mp htrim]
    -- a size within the limits is far from the end of the words
    have hfits : value * unit < UInt64.size := Nat.lt_of_le_of_lt hle (by decide)
    refine ⟨value * unit, readSize?_eq_some_iff.mpr ⟨value, unit, hcore, rfl, hfits⟩, ?_⟩
    rw [toOption_ofChunkSize_eq_some_iff]
    exact ⟨hchunk.symm, hpos, hle⟩

/-- **The override follows its language.** Take any text.

1. If it states a number of units, and that is a size within the limits of 1 byte and 64 MiB, then
   the settings have chunks of that size, and nothing is left in the log.
2. If it states no size within the limits, be it that it is not in the language or that the size is
   too small or too large, by however much, then the settings are the default, and the log mentions
   the text.

All settings that a program can come by, with a size it asks for, by default or with an override,
have chunks within the limits. -/
theorem override_follows_language (text : String) :
    (∀ value unit, States text value unit → 1 ≤ value * unit → value * unit ≤ 64 * 2 ^ 20 →
        ∃ settings, settings.chunkSize = value * unit ∧
          ofOverride (some text) = (settings, [])) ∧
      ((∀ value unit, States text value unit →
          ¬ (1 ≤ value * unit ∧ value * unit ≤ 64 * 2 ^ 20)) →
        ofOverride (some text) = (default, [overrideIgnored text])) ∧
      ∀ settings, Obtainable settings →
        1 ≤ settings.chunkSize ∧ settings.chunkSize ≤ 64 * 2 ^ 20 := by
  refine ⟨?_, ?_, ?_⟩
  · intro value unit hstates hpos hle
    obtain ⟨settings, hsettings⟩ : ∃ settings : Settings, settings.chunkSize = value * unit :=
      ⟨⟨value * unit, hpos, hle⟩, rfl⟩
    have hread : read? text = some settings :=
      read?_eq_some_iff.mpr ⟨value, unit, hstates, hsettings.symm, hpos, hle⟩
    refine ⟨settings, hsettings, ?_⟩
    simp only [ofOverride, hread]
  · intro hnone
    have hread : read? text = none := by
      cases hread : read? text with
      | none => rfl
      | some settings =>
        obtain ⟨value, unit, hstates, -, hwithin⟩ := read?_eq_some_iff.mp hread
        exact absurd hwithin (hnone value unit hstates)
    simp only [ofOverride, hread]
  · intro settings hobtainable
    cases hobtainable with
    | asked h =>
      obtain ⟨hsize, hwithin⟩ := ofChunkSize_eq_ok_iff.mp h
      rwa [hsize]
    | default => exact ⟨by decide, by decide⟩
    | override text =>
      cases text with
      | none => exact ⟨by decide, by decide⟩
      | some text =>
        cases hread : read? text with
        | none =>
          simp only [ofOverride, hread]
          exact ⟨by decide, by decide⟩
        | some settings =>
          obtain ⟨value, unit, -, hsize, hwithin⟩ := read?_eq_some_iff.mp hread
          simp only [ofOverride, hread, ← hsize]
          exact hwithin

/-- A narrow no-break space is a blank, and zeros in front do not count. -/
example : (ofOverride (some "\u202f 064KiB\n")).1.chunkSize = 2 ^ 16 := by cbv

/-- The product is `2 ^ 64 + 2048`. -/
example : ofOverride (some "18014398509481986K") =
    (default, [overrideIgnored "18014398509481986K"]) := by cbv

end Settings

end Blockwise
