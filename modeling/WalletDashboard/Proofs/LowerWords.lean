import WalletDashboard.Proofs.Spelling

/-!
# Lower case, word by word

A text can be put into lower case as a whole or word by word. It comes to the same: the lower case
of a capital sigma depends on the letters around it, but the search for them stops at white space.

* `lowerList_append`: white space cuts a text into parts that are lower-cased on their own.
* `spaced_words`: every text consists of its words.
* `words_lowerList`: lower case leaves every word where it stands (`Spaced.lowerList`), since the
  lower case of a word is a word.
* `IsTidy`: the words of a text stand with one space between them and nothing around. Leaving out
  white space makes a text shorter, if anything (`Spaced.length_intercalate_le`), and lower case
  hides none of it (`isTidy_lowerList_iff`).
-/

namespace WalletDashboard.Text

/-! ### White space cuts a text -/

/-- White space does not belong to a class whose ranges are all clear of it. -/
theorem inRanges_of_blank {ranges : Array (Nat × Nat)}
    (hclear : (ranges.toList.all fun r => blankChars.all fun d =>
      d.toNat < r.1 || r.2 < d.toNat) = true)
    {c : Char} (hc : isBlank c = true) : inRanges ranges c = false := by
  rw [inRanges, ← Array.any_toList, List.any_eq_false]
  intro r hr
  have hapart := List.all_eq_true.mp (List.all_eq_true.mp hclear r hr) c (mem_blankChars hc)
  simp only [Bool.or_eq_true, decide_eq_true_eq] at hapart
  simp only [Bool.and_eq_true, decide_eq_true_eq]
  omega

/-- White space is not passed over in the search for a cased letter. -/
theorem isCaseIgnorable_of_blank {c : Char} (hc : isBlank c = true) : isCaseIgnorable c = false :=
  inRanges_of_blank (by decide +kernel) hc

theorem isCased_of_blank {c : Char} (hc : isBlank c = true) : isCased c = false :=
  inRanges_of_blank (by decide +kernel) hc

section Blank

variable {c : Char} (hc : isBlank c = true)

include hc

/-- The search for a cased letter does not go beyond white space. -/
theorem meetsCased_append (xs ys : List Char) : meetsCased (xs ++ c :: ys) = meetsCased xs := by
  induction xs with
  | nil => simp [meetsCased, isCaseIgnorable_of_blank hc, isCased_of_blank hc]
  | cons x xs ih =>
    unfold meetsCased at ih ⊢
    by_cases hx : isCaseIgnorable x = true
    · rw [List.cons_append, List.dropWhile_cons_of_pos hx, List.dropWhile_cons_of_pos hx]
      exact ih
    · rw [List.cons_append, List.dropWhile_cons_of_neg hx, List.dropWhile_cons_of_neg hx]

/-- What stands before white space has no influence on what comes after. -/
theorem lowerAfter_forget (xs before cs : List Char) :
    lowerAfter (xs ++ c :: before) cs = lowerAfter xs cs := by
  induction cs generalizing xs with
  | nil => rfl
  | cons d cs ih =>
    rw [lowerAfter, lowerAfter, isFinal, isFinal, meetsCased_append hc, ← List.cons_append,
      ih (d :: xs)]

/-- What comes after white space has no influence on what stands before. -/
theorem lowerAfter_append_blank (before w rest : List Char) :
    lowerAfter before (w ++ c :: rest) = lowerAfter before w ++ c :: lowerList rest := by
  induction w generalizing before with
  | nil =>
    have hsigma : c ≠ 'Σ' := by
      rintro rfl
      exact absurd hc (by decide)
    have hrest : lowerAfter (c :: before) rest = lowerList rest :=
      lowerAfter_forget hc [] before rest
    show lowerAfter before (c :: rest) = c :: lowerList rest
    unfold lowerAfter
    rw [if_neg hsigma, lowerChars_of_blank hc, hrest]
    rfl
  | cons d w ih =>
    rw [List.cons_append, lowerAfter, lowerAfter, isFinal, isFinal, meetsCased_append hc, ih,
      List.append_assoc]

theorem lowerList_cons_blank (rest : List Char) : lowerList (c :: rest) = c :: lowerList rest :=
  lowerAfter_append_blank hc [] [] rest

end Blank

/-- White space cuts a text into parts that are lower-cased on their own. -/
theorem lowerList_append {rest : List Char}
    (hend : ∀ c, rest.head? = some c → isBlank c = true) (w : List Char) :
    lowerList (w ++ rest) = lowerList w ++ lowerList rest := by
  cases rest with
  | nil =>
    have hnil : lowerList [] = [] := rfl
    rw [List.append_nil, hnil, List.append_nil]
  | cons c rest =>
    have hc : isBlank c = true := hend c rfl
    rw [lowerList_cons_blank hc]
    exact lowerAfter_append_blank hc [] w rest

theorem lowerList_gap_append {gap : List Char} (hgap : IsGap gap) (cs : List Char) :
    lowerList (gap ++ cs) = gap ++ lowerList cs := by
  induction gap with
  | nil => rfl
  | cons c gap ih =>
    have hc : isBlank c = true := hgap c List.mem_cons_self
    have hrest : IsGap gap := fun d hd => hgap d (List.mem_cons_of_mem c hd)
    rw [List.cons_append, lowerList_cons_blank hc, ih hrest]
    rfl

theorem lowerList_gap {gap : List Char} (hgap : IsGap gap) : lowerList gap = gap := by
  have hend : lowerList (gap ++ []) = gap ++ [] := lowerList_gap_append hgap []
  rwa [List.append_nil] at hend

/-! ### The lower case of a word -/

/-- No capital letter has white space for its lower case. -/
theorem isBlank_of_covers {r : CaseRange} (hr : r ∈ lowerRanges) {n : Nat}
    (hn : r.covers n = true) : isBlank (Char.ofNat (n + r.shift).toNat) = false := by
  have hclear : (lowerRanges.toList.all fun r => 0 ≤ r.first + r.shift && blankChars.all fun d =>
      d.toNat < r.first + r.shift || r.last + r.shift < d.toNat) = true := by decide +kernel
  have hshifted := List.all_eq_true.mp hclear r (Array.mem_toList_iff.mpr hr)
  simp only [Bool.and_eq_true, List.all_eq_true, Bool.or_eq_true, decide_eq_true_eq] at hshifted
  obtain ⟨hfirst, hapart⟩ := hshifted
  simp only [CaseRange.covers, Bool.and_eq_true, decide_eq_true_eq] at hn
  by_cases hvalid : (n + r.shift).toNat.isValidChar
  · refine Bool.eq_false_iff.mpr fun hblank => ?_
    have hd := hapart _ (mem_blankChars hblank)
    rw [Char.ofNat, dif_pos hvalid] at hd
    have hnat : (Char.ofNatAux (n + r.shift).toNat hvalid).toNat = (n + r.shift).toNat := rfl
    omega
  · rw [Char.ofNat, dif_neg hvalid]
    decide

theorem isWord_singleton {c : Char} (hc : isBlank c = false) : IsWord [c] :=
  ⟨List.cons_ne_nil c [], fun d hd => by rwa [List.mem_singleton.mp hd]⟩

/-- The lower case of a letter is one letter or more. -/
theorem isWord_lowerChars {c : Char} (hc : isBlank c = false) : IsWord (lowerChars c) := by
  unfold lowerChars
  split_ifs with hascii hcapital hdotted
  · have hsmall : ∀ n ≤ 'Z'.toNat, 'A'.toNat ≤ n → isBlank (Char.ofNat (n + 32)) = false := by
      decide
    exact isWord_singleton (hsmall c.toNat hcapital.2 hcapital.1)
  · exact isWord_singleton hc
  · have hdots : (['i', Char.ofNat 0x307].all fun d => isBlank d = false) = true := by decide
    exact ⟨List.cons_ne_nil _ _, List.all_iff_forall_prop.mp hdots⟩
  · split
    · next r hr =>
      have hcovers := Array.find?_some hr
      exact isWord_singleton (isBlank_of_covers (Array.mem_of_find?_eq_some hr) hcovers)
    · exact isWord_singleton hc

/-- A letter in front contributes letters. -/
theorem lowerAfter_cons {c : Char} (hc : isBlank c = false) (before rest : List Char) :
    ∃ here, IsWord here ∧
      lowerAfter before (c :: rest) = here ++ lowerAfter (c :: before) rest := by
  rw [lowerAfter]
  refine ⟨_, ?_, rfl⟩
  split_ifs
  · exact isWord_singleton (by decide)
  · exact isWord_singleton (by decide)
  · exact isWord_lowerChars hc

theorem isBlank_of_mem_lowerAfter {w : List Char} (hw : ∀ c ∈ w, isBlank c = false)
    (before : List Char) : ∀ d ∈ lowerAfter before w, isBlank d = false := by
  induction w generalizing before with
  | nil => exact fun d hd => by cases hd
  | cons c w ih =>
    intro d hd
    obtain ⟨hc, hrest⟩ := List.forall_mem_cons.mp hw
    obtain ⟨here, hhere, heq⟩ := lowerAfter_cons hc before w
    rw [heq] at hd
    rcases List.mem_append.mp hd with hd | hd
    · exact hhere.2 d hd
    · exact ih hrest (c :: before) d hd

/-- The lower case of a word is a word. -/
theorem IsWord.lowerList {w : List Char} (hw : IsWord w) : IsWord (lowerList w) := by
  refine ⟨?_, isBlank_of_mem_lowerAfter hw.2 []⟩
  obtain ⟨hne, hletters⟩ := hw
  cases w with
  | nil => exact absurd rfl hne
  | cons c w =>
    obtain ⟨here, hhere, heq⟩ := lowerAfter_cons (hletters c List.mem_cons_self) [] w
    rw [Text.lowerList, heq]
    exact List.append_ne_nil_of_left_ne_nil hhere.1 _

/-! ### The words of a text -/

section Words

variable {ws : List (List Char)} {cs : List Char}

theorem Spaced.cons_blank {c : Char} (hc : isBlank c = true) (h : Spaced ws cs) :
    Spaced ws (c :: cs) := by
  cases h with
  | gap _ hgap => exact .gap (c :: cs) (List.forall_mem_cons.mpr ⟨hc, hgap⟩)
  | word gap w ws rest hgap hend h =>
    exact .word (c :: gap) w ws rest (List.forall_mem_cons.mpr ⟨hc, hgap⟩) hend h

/-- Every text consists of its words. -/
theorem spaced_words (cs : List Char) : Spaced (words cs) cs ∧ ∀ w ∈ words cs, IsWord w := by
  suffices hafter : ∀ word, (∀ c ∈ word, isBlank c = false) →
      Spaced (wordsAfter word cs) (word.reverse ++ cs) ∧ ∀ w ∈ wordsAfter word cs, IsWord w from
    hafter [] fun c hc => by cases hc
  have hreverse : ∀ word : List Char, word ≠ [] → (∀ c ∈ word, isBlank c = false) →
      IsWord word.reverse := fun word hne hword =>
    ⟨fun hnil => hne (List.reverse_eq_nil_iff.mp hnil),
      fun c hc => hword c (List.mem_reverse.mp hc)⟩
  induction cs with
  | nil =>
    intro word hword
    unfold wordsAfter
    split_ifs with hnil
    · rw [hnil]
      exact ⟨.gap [] isGap_nil, fun w hw => by cases hw⟩
    · refine ⟨.word [] word.reverse [] [] isGap_nil (fun c hc => by cases hc) (.gap [] isGap_nil),
        fun w hw => ?_⟩
      rw [List.mem_singleton.mp hw]
      exact hreverse word hnil hword
  | cons c cs ih =>
    intro word hword
    unfold wordsAfter
    split_ifs with hc hnil
    · obtain ⟨hspaced, hwords⟩ := ih [] fun c hc => by cases hc
      rw [hnil]
      exact ⟨hspaced.cons_blank hc, hwords⟩
    · obtain ⟨hspaced, hwords⟩ := ih [] fun c hc => by cases hc
      have hend : ∀ d, (c :: cs).head? = some d → isBlank d = true := by
        intro d hd
        cases hd
        exact hc
      exact ⟨.word [] word.reverse _ (c :: cs) isGap_nil hend (hspaced.cons_blank hc),
        List.forall_mem_cons.mpr ⟨hreverse word hnil hword, hwords⟩⟩
    · have hletters : ∀ d ∈ c :: word, isBlank d = false :=
        List.forall_mem_cons.mpr ⟨Bool.eq_false_iff.mpr hc, hword⟩
      obtain ⟨hspaced, hwords⟩ := ih (c :: word) hletters
      rw [List.reverse_cons, List.append_assoc] at hspaced
      exact ⟨hspaced, hwords⟩

theorem isBlank_head?_lowerList (hend : ∀ c, cs.head? = some c → isBlank c = true) :
    ∀ c, (lowerList cs).head? = some c → isBlank c = true := by
  cases cs with
  | nil => exact fun c hc => by cases hc
  | cons d cs =>
    have hd : isBlank d = true := hend d rfl
    rw [lowerList_cons_blank hd]
    intro c hc
    cases hc
    exact hd

/-- Lower case leaves every word where it stands. -/
theorem Spaced.lowerList (h : Spaced ws cs) : Spaced (ws.map lowerList) (lowerList cs) := by
  induction h with
  | gap gap hgap =>
    rw [lowerList_gap hgap]
    exact .gap gap hgap
  | word gap w ws rest hgap hend _ ih =>
    rw [List.append_assoc, lowerList_gap_append hgap, lowerList_append hend, ← List.append_assoc]
    exact .word gap _ _ _ hgap (isBlank_head?_lowerList hend) ih

/-- The lower case of a text has the same words, in lower case. -/
theorem words_lowerList (cs : List Char) : words (lowerList cs) = (words cs).map lowerList := by
  obtain ⟨hspaced, hwords⟩ := spaced_words cs
  exact words_of_spaced hspaced.lowerList
    (List.forall_mem_map.mpr fun w hw => (hwords w hw).lowerList)

/-! ### Tidy texts -/

/-- The words stand with one space between them and nothing around. -/
def IsTidy (cs : List Char) : Prop := cs = List.intercalate [' '] (words cs)

instance (cs : List Char) : Decidable (IsTidy cs) :=
  inferInstanceAs (Decidable (cs = List.intercalate [' '] (words cs)))

theorem lowerList_intercalate (ws : List (List Char)) :
    lowerList (List.intercalate [' '] ws) = List.intercalate [' '] (ws.map lowerList) := by
  have hflat : ∀ ws : List (List Char), Text.lowerList (ws.flatMap ([' '] ++ ·)) =
      (ws.map Text.lowerList).flatMap ([' '] ++ ·) := by
    intro ws
    induction ws with
    | nil => rfl
    | cons w ws ih =>
      rw [List.map_cons, List.flatMap_cons, List.flatMap_cons, List.append_assoc,
        lowerList_gap_append isGap_space, lowerList_append fun _ => isBlank_head?_flatMap, ih,
        List.append_assoc]
  cases ws with
  | nil => rfl
  | cons w ws =>
    rw [List.map_cons, intercalate_cons_eq_append, intercalate_cons_eq_append,
      lowerList_append fun _ => isBlank_head?_flatMap, hflat]

theorem takeWhile_gap {gap w : List Char} (hgap : IsGap gap) (hw : IsWord w) (rest : List Char) :
    (gap ++ (w ++ rest)).takeWhile isBlank = gap := by
  obtain ⟨hne, hletters⟩ := hw
  cases w with
  | nil => exact absurd rfl hne
  | cons c w =>
    have hc : ¬isBlank c = true := Bool.eq_false_iff.mp (hletters c List.mem_cons_self)
    rw [List.takeWhile_append_of_pos hgap, List.cons_append, List.takeWhile_cons_of_neg hc,
      List.append_nil]

/-- In front of a word that begins with white space, there is some. -/
theorem Spaced.length_flatMap_le (h : Spaced ws cs) (hws : ∀ w ∈ ws, IsWord w)
    (hstart : ∀ c, cs.head? = some c → isBlank c = true) :
    (ws.flatMap ([' '] ++ ·)).length ≤ cs.length := by
  induction h with
  | gap => exact Nat.zero_le _
  | word gap w ws rest hgap hend _ ih =>
    obtain ⟨⟨hne, hletters⟩, hrest⟩ := List.forall_mem_cons.mp hws
    have hgap : gap ≠ [] := by
      rintro rfl
      obtain ⟨c, w, rfl⟩ := List.exists_cons_of_ne_nil hne
      have hblank : isBlank c = true := hstart c rfl
      rw [hletters c List.mem_cons_self] at hblank
      cases hblank
    have hpos := List.length_pos_iff.mpr hgap
    have hle := ih hrest hend
    rw [List.flatMap_cons, List.length_append, List.length_append, List.length_append,
      List.length_append, List.length_singleton]
    omega

/-- Leaving out white space makes a text shorter, if anything. -/
theorem Spaced.length_intercalate_le (h : Spaced ws cs) (hws : ∀ w ∈ ws, IsWord w) :
    (List.intercalate [' '] ws).length ≤ cs.length := by
  cases h with
  | gap => exact Nat.zero_le _
  | word gap w ws rest hgap hend h =>
    have hrest := h.length_flatMap_le (fun v hv => hws v (List.mem_cons_of_mem w hv)) hend
    rw [intercalate_cons_eq_append, List.length_append, List.length_append, List.length_append]
    omega

/-- Lower case does not hide any white space. -/
theorem Spaced.eq_flatMap (h : Spaced ws cs) (hws : ∀ w ∈ ws, IsWord w)
    (heq : Text.lowerList cs = (ws.map Text.lowerList).flatMap ([' '] ++ ·)) :
    cs = ws.flatMap ([' '] ++ ·) := by
  induction h with
  | gap gap hgap =>
    rwa [lowerList_gap hgap] at heq
  | word gap w ws rest hgap hend _ ih =>
    obtain ⟨hw, hrest⟩ := List.forall_mem_cons.mp hws
    rw [List.append_assoc, lowerList_gap_append hgap, lowerList_append hend, List.map_cons,
      List.flatMap_cons, List.append_assoc] at heq
    have hgaps := congrArg (List.takeWhile isBlank) heq
    rw [takeWhile_gap hgap hw.lowerList, takeWhile_gap isGap_space hw.lowerList] at hgaps
    rw [hgaps] at heq ⊢
    have htail := List.append_cancel_left (List.append_cancel_left heq)
    rw [ih hrest htail, List.flatMap_cons]

/-- A text is tidy exactly if its lower case is. -/
theorem isTidy_lowerList_iff (cs : List Char) : IsTidy (Text.lowerList cs) ↔ IsTidy cs := by
  unfold IsTidy
  rw [words_lowerList]
  constructor
  · obtain ⟨hspaced, hwords⟩ := spaced_words cs
    generalize words cs = ws at hspaced hwords ⊢
    intro h
    cases hspaced with
    | gap _ hgap =>
      rwa [lowerList_gap hgap] at h
    | word gap w ws rest hgap hend hrest =>
      obtain ⟨hw, hws⟩ := List.forall_mem_cons.mp hwords
      rw [List.append_assoc, lowerList_gap_append hgap, lowerList_append hend, List.map_cons,
        intercalate_cons_eq_append] at h
      have hgaps := congrArg (List.takeWhile isBlank) h
      have hnone := takeWhile_gap isGap_nil hw.lowerList ((ws.map lowerList).flatMap ([' '] ++ ·))
      rw [List.nil_append] at hnone
      rw [takeWhile_gap hgap hw.lowerList, hnone] at hgaps
      rw [hgaps, List.nil_append] at h ⊢
      rw [hrest.eq_flatMap hws (List.append_cancel_left h), intercalate_cons_eq_append]
  · intro h
    rw [← lowerList_intercalate, ← h]

end Words

end WalletDashboard.Text
