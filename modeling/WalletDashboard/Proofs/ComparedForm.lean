import Mathlib.Data.List.TakeWhile
import WalletDashboard.Dashboard.Session
import WalletDashboard.Proofs.LowerWords

/-!
# The compared form of a text

`phraseOf` brings a key or a phrase into the form in which it is compared. A text in this form stays
as it is, for two reasons. Its words stand with one space between them; and they are in lower case,
and lower case contains no capitals: every entry of the table of lower cases leads outside the
table, and so do the letters that the table leaves out.

* `Text.isCapital`: the characters that have another character for their lower case. A text without
  capitals is its own lower case (`Text.lowerAfter_of_small`), and every lower case is such a text
  (`Text.isCapital_of_mem_lowerAfter`).
* `Text.words_append_gap`: white space takes the words of a text apart, however much of it there is.

`phraseOf_phraseOf` puts them together. The dashboard trims what was typed, and looks whether
anything is left of it, before the service brings the rest into the compared form. It is the same
question whether anything is left then, and the answers to an import are the same before and after
each of the two.
-/

namespace WalletDashboard

namespace Text

/-! ### Lower case has no capitals -/

/-- The table of lower cases, with the capital dotted I in front. -/
def capitalRanges : List CaseRange := ⟨0x130, 0x130, 1, 0⟩ :: lowerRanges.toList

/-- Whether the lower case of the character is something else. -/
def isCapital (c : Char) : Bool := capitalRanges.any (·.covers c.toNat)

theorem isCapital_eq_false_iff {c : Char} :
    isCapital c = false ↔ ∀ r ∈ capitalRanges, r.covers c.toNat = false := by
  simp [isCapital]

/-- The lower case of the first of the range. -/
def CaseRange.target (r : CaseRange) : Nat := (r.first + r.shift).toNat

/-- The lower cases of the range `r` do not belong to the range `q`. They lie before it or behind
it, or between its members. -/
def CaseRange.misses (r q : CaseRange) : Bool :=
  (r.target + (r.last - r.first)).blt q.first || q.last.blt r.target ||
    (q.step == 2 && (r.step == 2 || r.first == r.last) && (r.target + q.first) % 2 == 1)

theorem CaseRange.bounds_of_covers {r : CaseRange} {n : Nat} (h : r.covers n = true) :
    r.first ≤ n ∧ n ≤ r.last := by
  simp only [covers, Bool.and_eq_true, decide_eq_true_eq] at h
  exact h.1

theorem CaseRange.covers_eq_false_of_misses {r q : CaseRange} (h : r.misses q = true) {n : Nat}
    (hn : r.covers n = true) (hpos : 0 ≤ r.first + r.shift) :
    q.covers (n + r.shift).toNat = false := by
  refine Bool.eq_false_iff.mpr fun hq => ?_
  simp only [covers, Bool.and_eq_true, decide_eq_true_eq, beq_iff_eq] at hn hq
  obtain ⟨⟨hfirst, hlast⟩, hstep⟩ := hn
  obtain ⟨⟨hqfirst, hqlast⟩, hqstep⟩ := hq
  simp only [misses, target, Bool.or_eq_true, Bool.and_eq_true, Nat.blt_eq, beq_iff_eq] at h
  rcases h with (hbefore | hbehind) | ⟨⟨hq2, hr2⟩, hodd⟩
  · omega
  · omega
  · rw [hq2] at hqstep
    rcases hr2 with hr2 | hone
    · rw [hr2] at hstep
      omega
    · omega

/-- No entry of the table leads into the table. -/
theorem misses_of_mem {r : CaseRange} (hr : r ∈ lowerRanges) :
    0 ≤ r.first + r.shift ∧ ∀ q ∈ capitalRanges, r.misses q = true := by
  have hall : (lowerRanges.toList.all fun r => 0 ≤ r.first + r.shift &&
      capitalRanges.all r.misses) = true := by decide +kernel
  have hr := List.all_eq_true.mp hall r (Array.mem_toList_iff.mpr hr)
  rwa [Bool.and_eq_true, decide_eq_true_eq, List.all_eq_true] at hr

theorem isCapital_of_covers {r : CaseRange} (hr : r ∈ lowerRanges) {n : Nat}
    (hn : r.covers n = true) : isCapital (Char.ofNat (n + r.shift).toNat) = false := by
  obtain ⟨hpos, hmisses⟩ := misses_of_mem hr
  by_cases hvalid : (n + r.shift).toNat.isValidChar
  · rw [isCapital_eq_false_iff, Char.ofNat, dif_pos hvalid]
    exact fun q hq => CaseRange.covers_eq_false_of_misses (hmisses q hq) hn hpos
  · rw [Char.ofNat, dif_neg hvalid]
    decide +kernel

theorem lowerChars_of_small {c : Char} (hc : isCapital c = false) : lowerChars c = [c] := by
  have hclear := isCapital_eq_false_iff.mp hc
  unfold lowerChars
  split_ifs with hascii hcapital hdotted
  · have hcovered : ∀ n ≤ 'Z'.toNat, 'A'.toNat ≤ n →
        (capitalRanges.any (·.covers n)) = true := by decide +kernel
    have htrue : isCapital c = true := hcovered c.toNat hcapital.2 hcapital.1
    rw [hc] at htrue
    cases htrue
  · rfl
  · have hfalse := hclear _ List.mem_cons_self
    rw [hdotted] at hfalse
    cases hfalse
  · have hnone : lowerRanges.find? (·.covers c.toNat) = none := by
      refine Array.find?_eq_none.mpr fun r hr => ?_
      rw [hclear r (List.mem_cons_of_mem _ (Array.mem_toList_iff.mpr hr))]
      exact Bool.false_ne_true
    rw [hnone]

theorem isCapital_of_mem_lowerChars {c d : Char} (hd : d ∈ lowerChars c) :
    isCapital d = false := by
  unfold lowerChars at hd
  split_ifs at hd with hascii hcapital hdotted
  · have hsmall : ∀ n ≤ 'Z'.toNat, 'A'.toNat ≤ n → isCapital (Char.ofNat (n + 32)) = false := by
      decide +kernel
    rw [List.mem_singleton.mp hd]
    exact hsmall c.toNat hcapital.2 hcapital.1
  · have hranges : ∀ r ∈ capitalRanges,
        r.first = 'A'.toNat ∧ r.last = 'Z'.toNat ∨ 0x80 ≤ r.first := by decide +kernel
    have hnot : ¬('A'.toNat ≤ c.toNat ∧ c.toNat ≤ 'Z'.toNat) := hcapital
    rw [List.mem_singleton.mp hd, isCapital_eq_false_iff]
    refine fun r hr => Bool.eq_false_iff.mpr fun hcovers => ?_
    have hbounds := CaseRange.bounds_of_covers hcovers
    rcases hranges r hr with ⟨hfirst, hlast⟩ | hbeyond
    · rw [hfirst, hlast] at hbounds
      exact hnot hbounds
    · omega
  · have hdots : (['i', Char.ofNat 0x307].all fun d => isCapital d = false) = true := by
      decide +kernel
    exact List.all_iff_forall_prop.mp hdots d hd
  · split at hd
    · next r hr =>
      have hcovers := Array.find?_some hr
      rw [List.mem_singleton.mp hd]
      exact isCapital_of_covers (Array.mem_of_find?_eq_some hr) hcovers
    · next hnone =>
      rw [List.mem_singleton.mp hd, isCapital_eq_false_iff]
      refine List.forall_mem_cons.mpr ⟨?_, fun r hr => ?_⟩
      · refine Bool.eq_false_iff.mpr fun hcovers => hdotted ?_
        obtain ⟨hfirst, hlast⟩ := CaseRange.bounds_of_covers hcovers
        exact Nat.le_antisymm hlast hfirst
      · exact Bool.eq_false_iff.mpr (Array.find?_eq_none.mp hnone r (Array.mem_toList_iff.mp hr))

/-- A text without capitals is its own lower case. -/
theorem lowerAfter_of_small {cs : List Char} (hcs : ∀ c ∈ cs, isCapital c = false)
    (before : List Char) : lowerAfter before cs = cs := by
  induction cs generalizing before with
  | nil => rfl
  | cons c cs ih =>
    obtain ⟨hc, hrest⟩ := List.forall_mem_cons.mp hcs
    have hsigma : c ≠ 'Σ' := by
      rintro rfl
      exact absurd hc (by decide +kernel)
    rw [lowerAfter, if_neg hsigma, lowerChars_of_small hc, ih hrest]
    rfl

theorem isCapital_of_mem_lowerAfter {cs before : List Char} {d : Char}
    (hd : d ∈ lowerAfter before cs) : isCapital d = false := by
  induction cs generalizing before with
  | nil => cases hd
  | cons c cs ih =>
    rw [lowerAfter] at hd
    rcases List.mem_append.mp hd with hhere | hrest
    · split_ifs at hhere
      · rw [List.mem_singleton.mp hhere]
        decide +kernel
      · rw [List.mem_singleton.mp hhere]
        decide +kernel
      · exact isCapital_of_mem_lowerChars hhere
    · exact ih hrest

theorem lowerList_lowerList (cs : List Char) : lowerList (lowerList cs) = lowerList cs :=
  lowerAfter_of_small (fun _ => isCapital_of_mem_lowerAfter) []

/-! ### White space between words -/

theorem wordsAfter_append_gap_append {gap : List Char} (hne : gap ≠ []) (hgap : IsGap gap)
    (word as bs : List Char) :
    wordsAfter word (as ++ gap ++ bs) = wordsAfter word as ++ words bs := by
  induction as generalizing word with
  | nil =>
    have hrest : wordsAfter [] (gap ++ bs) = words bs := wordsAfter_gap hgap bs
    rw [List.nil_append]
    by_cases hword : word = []
    · rw [hword, hrest]
      rfl
    · have hend : ∀ c, (gap ++ bs).head? = some c → isBlank c = true := by
        intro c hc
        rw [List.head?_append_of_ne_nil gap hne] at hc
        exact hgap c (List.mem_of_head? hc)
      rw [wordsAfter_end hword hend, hrest, wordsAfter, if_neg hword]
      rfl
  | cons a as ih =>
    rw [List.cons_append, List.cons_append, wordsAfter, wordsAfter]
    split_ifs
    · exact ih []
    · rw [ih [], List.cons_append]
    · exact ih (a :: word)

/-- White space takes the words of a text apart, however much of it there is. -/
theorem words_append_gap {gap : List Char} (hne : gap ≠ []) (hgap : IsGap gap)
    (as bs : List Char) : words (as ++ gap ++ bs) = words as ++ words bs :=
  wordsAfter_append_gap_append hne hgap [] as bs

/-- White space around a text belongs to none of its words. -/
theorem words_surround {before after : List Char} (hbefore : IsGap before) (hafter : IsGap after)
    (cs : List Char) : words (before ++ cs ++ after) = words cs := by
  rw [words, wordsAfter_append_gap hafter, wordsAfter_gap hbefore]
  rfl

theorem words_eq_nil_iff {cs : List Char} : words cs = [] ↔ IsGap cs := by
  constructor
  · intro hnil
    have hspaced := (spaced_words cs).1
    rw [hnil] at hspaced
    cases hspaced with
    | gap _ hgap => exact hgap
  · intro hgap
    exact words_of_spaced (.gap cs hgap) nofun

/-- The words of a text are words in lower case as well. -/
theorem isWord_of_mem_map_lowerList {cs w : List Char} (hw : w ∈ (words cs).map lowerList) :
    IsWord w := by
  obtain ⟨v, hv, rfl⟩ := List.mem_map.mp hw
  exact ((spaced_words cs).2 v hv).lowerList

theorem trimList_gap {gap : List Char} (hgap : IsGap gap) : trimList gap = [] := by
  rw [trimList, List.dropWhile_eq_nil_iff.mpr hgap]
  rfl

/-- Nothing is left of a text when it is trimmed exactly if it has no words. -/
theorem trim_eq_empty_iff {text : String} : trim text = "" ↔ IsGap text.toList := by
  constructor
  · intro hempty
    have hnil : trimList text.toList = [] := by simpa [trim] using hempty
    rw [← words_eq_nil_iff, ← words_trimList, hnil]
    rfl
  · intro hgap
    rw [trim, trimList_gap hgap]

end Text

/-! ### The compared form -/

theorem words_phraseOf (text : String) :
    Text.words (phraseOf text).toList = (Text.words text.toList).map Text.lowerList := by
  rw [phraseOf, String.toList_ofList]
  exact Text.words_of_spaced (Text.spaced_intercalate _) fun w => Text.isWord_of_mem_map_lowerList

theorem phraseOf_phraseOf (text : String) : phraseOf (phraseOf text) = phraseOf text := by
  have hlower : Text.lowerList ∘ Text.lowerList = Text.lowerList := funext Text.lowerList_lowerList
  rw [phraseOf, words_phraseOf, List.map_map, hlower]
  rfl

theorem phraseOf_eq_empty_iff {text : String} :
    phraseOf text = "" ↔ Text.IsGap text.toList := by
  constructor
  · intro hempty
    have hwords := words_phraseOf text
    rw [hempty] at hwords
    exact Text.words_eq_nil_iff.mp (List.map_eq_nil_iff.mp hwords.symm)
  · intro hgap
    rw [phraseOf, Text.words_eq_nil_iff.mpr hgap]
    rfl

/-! ### Imports -/

theorem MemoryState.importWallet_eq_of_phraseOf {text other : String}
    (h : phraseOf text = phraseOf other) :
    MemoryState.importWallet text = MemoryState.importWallet other := by
  funext m
  rw [importWallet, importWallet, h]

/-- The dashboard gives the same answer to a text and to its compared form. -/
theorem Session.importWallet_phraseOf (mint : Nat → WalletExport) (window : Nat) (text : String)
    (s : Session MemoryState) :
    s.importWallet (MemoryState.service mint window) (phraseOf text) =
      s.importWallet (MemoryState.service mint window) text := by
  have hblank : Text.trim (phraseOf text) = "" ↔ Text.trim text = "" := by
    rw [Text.trim_eq_empty_iff, ← phraseOf_eq_empty_iff, phraseOf_phraseOf, phraseOf_eq_empty_iff,
      Text.trim_eq_empty_iff]
  have hservice : (MemoryState.service mint window).importWallet (Text.trim (phraseOf text)) =
      (MemoryState.service mint window).importWallet (Text.trim text) := by
    refine MemoryState.importWallet_eq_of_phraseOf ?_
    rw [phraseOf_trim, phraseOf_trim, phraseOf_phraseOf]
  simp only [importWallet, hblank, hservice]

/-- **The compared form of a text is tidy, and does not depend on the white space of the text.** It
stays as it is when it is brought into the compared form again; its words stand with one space
between them and nothing around; white space may be put around the text, and any of it in the text
may be replaced by other white space; and nothing is left exactly of a text of white space, as when
it is trimmed. So the answer to an import and the state after it are the same for a text, for the
text without the white space around it and for its compared form, whether the service is asked or
the dashboard. -/
theorem phraseOf_tidies (text : String) :
    phraseOf (phraseOf text) = phraseOf text ∧
      (∃ ws, (∀ w ∈ ws, Text.IsWord w) ∧ (phraseOf text).toList = List.intercalate [' '] ws) ∧
      (∀ before after, Text.IsGap before → Text.IsGap after →
        phraseOf (String.ofList (before ++ text.toList ++ after)) = phraseOf text) ∧
      (∀ as gap bs other, text.toList = as ++ gap ++ bs → gap ≠ [] → Text.IsGap gap →
        other ≠ [] → Text.IsGap other →
          phraseOf (String.ofList (as ++ other ++ bs)) = phraseOf text) ∧
      ((phraseOf text = "" ↔ Text.IsGap text.toList) ∧
        (Text.trim text = "" ↔ phraseOf text = "")) ∧
      (∀ m : MemoryState, m.importWallet (Text.trim text) = m.importWallet text ∧
        m.importWallet (phraseOf text) = m.importWallet text) ∧
      ∀ mint window (s : Session MemoryState),
        s.importWallet (MemoryState.service mint window) (phraseOf text) =
          s.importWallet (MemoryState.service mint window) text := by
  refine ⟨phraseOf_phraseOf text, ?_, ?_, ?_, ?_, ?_, ?_⟩
  · exact ⟨_, fun w => Text.isWord_of_mem_map_lowerList, String.toList_ofList⟩
  · intro before after hbefore hafter
    rw [phraseOf, String.toList_ofList, Text.words_surround hbefore hafter]
    rfl
  · intro as gap bs other htext hne hgap hne' hother
    rw [phraseOf, phraseOf, String.toList_ofList, htext, Text.words_append_gap hne' hother,
      Text.words_append_gap hne hgap]
  · exact ⟨phraseOf_eq_empty_iff, Text.trim_eq_empty_iff.trans phraseOf_eq_empty_iff.symm⟩
  · intro m
    rw [MemoryState.importWallet_eq_of_phraseOf (phraseOf_trim text),
      MemoryState.importWallet_eq_of_phraseOf (phraseOf_phraseOf text)]
    exact ⟨rfl, rfl⟩
  · exact fun mint window => Session.importWallet_phraseOf mint window text

/-- White space of several kinds, a capital sigma, and a capital letter whose lower case is two
characters. -/
theorem phraseOf_tidies_dotted :
    let text := "ΣΑ\u3000\tİZ"
    let before := ['\u00a0']
    let gap := ['\u3000', '\t']
    let other := [' ', '\n']
    (Text.IsGap before ∧ Text.IsGap other ∧ text.toList = ['Σ', 'Α'] ++ gap ++ ['İ', 'Z']) ∧
      phraseOf text = "σα i\u0307z" ∧
      phraseOf (String.ofList (before ++ text.toList ++ other)) = phraseOf text ∧
      phraseOf (String.ofList (['Σ', 'Α'] ++ other ++ ['İ', 'Z'])) = phraseOf text := by
  intro text before gap other
  have hbefore : Text.IsGap before := by decide
  have hother : Text.IsGap other := by decide
  have htext : text.toList = ['Σ', 'Α'] ++ gap ++ ['İ', 'Z'] := by decide
  obtain ⟨-, -, haround, hreplaced, -⟩ := phraseOf_tidies text
  exact ⟨⟨hbefore, hother, htext⟩, by decide +kernel, haround before other hbefore hother,
    hreplaced _ gap _ other htext (by decide) (by decide) (by decide) hother⟩

end WalletDashboard
