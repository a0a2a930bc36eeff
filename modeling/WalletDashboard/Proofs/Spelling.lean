import Mathlib.Data.Bool.AllAny
import Mathlib.Data.List.Forall2
import WalletDashboard.Proofs.Requests
import WalletDashboard.Service.Memory
import WalletDashboard.Service.Secrets

/-!
# Ways to write a key or phrase

The secrets of a wallet are given back to the user once, and typed in again in some way: in capital
letters, with `0x` in front, with white space around the words. `phraseOf` undoes all of that.

* `Text.Spaced ws cs`: the text `cs` consists of the words `ws`, with white space between them and
  perhaps around them (`Text.words_of_spaced`).
* `Text.SameLetter`: two characters are one letter, perhaps in different cases. Lower case undoes
  the difference for digits and small letters (`Text.lowerList_of_sameLetters`).
* `WalletExport.Spelling`: the ways to write the private key or the recovery phrase of a wallet.
* `WalletExport.IsDrawn`: the wallet is made of random draws, as every new one is.

`WalletExport.Spelling.matches` puts them together: whatever way the secrets of a new wallet are
written, they select what is stored of it.
-/

namespace WalletDashboard

namespace Text

/-! ### Words -/

/-- Nothing but white space. -/
def IsGap (cs : List Char) : Prop := ∀ c ∈ cs, isBlank c = true

instance (cs : List Char) : Decidable (IsGap cs) :=
  decidable_of_iff (cs.all isBlank = true) List.all_eq_true

/-- Characters that are kept together: there are some, and none of them is white space. -/
def IsWord (cs : List Char) : Prop := cs ≠ [] ∧ ∀ c ∈ cs, isBlank c = false

/-- The text `cs` consists of the words `ws`: there is white space between any two of them, and
there may be some at both ends. -/
inductive Spaced : List (List Char) → List Char → Prop
  | gap (gap : List Char) (hgap : IsGap gap) : Spaced [] gap
  | word (gap w : List Char) (ws : List (List Char)) (rest : List Char) (hgap : IsGap gap)
    (hend : ∀ c, rest.head? = some c → isBlank c = true) (h : Spaced ws rest) :
    Spaced (w :: ws) (gap ++ w ++ rest)

theorem wordsAfter_gap {gap : List Char} (hgap : IsGap gap) (rest : List Char) :
    wordsAfter [] (gap ++ rest) = wordsAfter [] rest := by
  induction gap with
  | nil => rfl
  | cons c gap ih =>
    have hc : isBlank c = true := hgap c List.mem_cons_self
    have hrest : IsGap gap := fun d hd => hgap d (List.mem_cons_of_mem c hd)
    rw [List.cons_append, wordsAfter, if_pos hc, if_pos rfl, ih hrest]

theorem wordsAfter_append {w : List Char} (hw : ∀ c ∈ w, isBlank c = false)
    (before rest : List Char) :
    wordsAfter before (w ++ rest) = wordsAfter (w.reverse ++ before) rest := by
  induction w generalizing before with
  | nil => rfl
  | cons c w ih =>
    have hc : isBlank c = false := hw c List.mem_cons_self
    have hrest : ∀ d ∈ w, isBlank d = false := fun d hd => hw d (List.mem_cons_of_mem c hd)
    rw [List.cons_append, wordsAfter, if_neg (Bool.eq_false_iff.mp hc), ih hrest,
      List.reverse_cons, List.append_assoc]
    rfl

/-- White space ends a word, and so does the end of the text. -/
theorem wordsAfter_end {word : List Char} (hword : word ≠ []) {rest : List Char}
    (hend : ∀ c, rest.head? = some c → isBlank c = true) :
    wordsAfter word rest = word.reverse :: wordsAfter [] rest := by
  cases rest with
  | nil =>
    rw [wordsAfter, wordsAfter, if_neg hword, if_pos rfl]
  | cons c rest =>
    have hc : isBlank c = true := hend c rfl
    rw [wordsAfter, wordsAfter, if_pos hc, if_neg hword, if_pos hc, if_pos rfl]

/-- The words of a text are the ones that it consists of. -/
theorem words_of_spaced {ws : List (List Char)} {cs : List Char} (h : Spaced ws cs)
    (hws : ∀ w ∈ ws, IsWord w) : words cs = ws := by
  unfold words
  induction h with
  | gap gap hgap =>
    rw [← List.append_nil gap, wordsAfter_gap hgap, wordsAfter, if_pos rfl]
  | word gap w ws rest hgap hend _ ih =>
    obtain ⟨hne, hw⟩ := hws w List.mem_cons_self
    have hne' : w.reverse ++ [] ≠ [] := by simpa using hne
    have hrest := ih fun v hv => hws v (List.mem_cons_of_mem w hv)
    rw [List.append_assoc, wordsAfter_gap hgap, wordsAfter_append hw, wordsAfter_end hne' hend,
      hrest, List.append_nil, List.reverse_reverse]

/-- White space at the end belongs to no word. -/
theorem wordsAfter_append_gap {gap : List Char} (hgap : IsGap gap) (word cs : List Char) :
    wordsAfter word (cs ++ gap) = wordsAfter word cs := by
  induction cs generalizing word with
  | nil =>
    have hnone : wordsAfter [] gap = [] := by
      rw [← List.append_nil gap, wordsAfter_gap hgap, wordsAfter, if_pos rfl]
    by_cases hword : word = []
    · rw [hword, List.nil_append, hnone, wordsAfter, if_pos rfl]
    · have hend : ∀ c, gap.head? = some c → isBlank c = true :=
        fun c hc => hgap c (List.mem_of_head? hc)
      rw [List.nil_append, wordsAfter_end hword hend, hnone, wordsAfter, if_neg hword]
  | cons c cs ih =>
    rw [List.cons_append, wordsAfter, wordsAfter]
    split_ifs
    · exact ih []
    · rw [ih []]
    · exact ih (c :: word)

/-- Trimming a text does not change its words. -/
theorem words_trimList (cs : List Char) : words (trimList cs) = words cs := by
  obtain ⟨before, after, hcs, hblank, -⟩ := isTrimOf_trimList cs
  have hbefore : IsGap before := fun c hc => hblank c (List.mem_append_left after hc)
  have hafter : IsGap after := fun c hc => hblank c (List.mem_append_right before hc)
  conv_rhs => rw [hcs]
  rw [words, words, wordsAfter_append_gap hafter, wordsAfter_gap hbefore]

theorem isGap_nil : IsGap [] := fun c hc => by cases hc

theorem isGap_space : IsGap [' '] := List.forall_mem_singleton.mpr rfl

theorem isBlank_head?_flatMap {ws : List (List Char)} {c : Char}
    (hc : (ws.flatMap ([' '] ++ ·)).head? = some c) : isBlank c = true := by
  cases ws with
  | nil => cases hc
  | cons w ws =>
    cases hc
    rfl

/-- Words with a space in front of each. -/
theorem spaced_flatMap (ws : List (List Char)) : Spaced ws (ws.flatMap ([' '] ++ ·)) := by
  induction ws with
  | nil => exact .gap [] isGap_nil
  | cons w ws ih => exact .word [' '] w ws _ isGap_space (fun _ => isBlank_head?_flatMap) ih

theorem intercalate_cons_eq_append (sep w : List Char) (ws : List (List Char)) :
    List.intercalate sep (w :: ws) = w ++ ws.flatMap (sep ++ ·) := by
  induction ws generalizing w with
  | nil => simp
  | cons v ws ih =>
    rw [List.intercalate_cons_cons, ih, List.flatMap_cons, List.append_assoc, List.append_assoc]

/-- Words with one space between them. -/
theorem spaced_intercalate (ws : List (List Char)) : Spaced ws (List.intercalate [' '] ws) := by
  cases ws with
  | nil => exact .gap [] isGap_nil
  | cons w ws =>
    rw [intercalate_cons_eq_append]
    exact .word [] w ws _ isGap_nil (fun _ => isBlank_head?_flatMap) (spaced_flatMap ws)

/-! ### Letters in either case -/

/-- Two characters that are one letter, perhaps in different cases. -/
def SameLetter (c d : Char) : Prop := lowerChars c = lowerChars d

instance (c d : Char) : Decidable (SameLetter c d) :=
  inferInstanceAs (Decidable (lowerChars c = lowerChars d))

/-- The digits and the small letters from `a` to `z`. -/
def plainChars : List Char := "0123456789abcdefghijklmnopqrstuvwxyz".toList

theorem lowerChars_of_plain {c : Char} (h : c ∈ plainChars) : lowerChars c = [c] := by
  have hall : (plainChars.all fun d => lowerChars d = [d]) = true := by decide
  exact List.all_iff_forall_prop.mp hall c h

theorem isBlank_of_plain {c : Char} (h : c ∈ plainChars) : isBlank c = false := by
  have hall : (plainChars.all fun d => isBlank d = false) = true := by decide
  exact List.all_iff_forall_prop.mp hall c h

/-- Capitals are the same letters. -/
theorem sameLetter_toUpper {c : Char} (h : c ∈ plainChars) : SameLetter c.toUpper c := by
  have hall : (plainChars.all fun d => SameLetter d.toUpper d) = true := by decide
  exact List.all_iff_forall_prop.mp hall c h

/-- The characters of white space. -/
def blankChars : List Char :=
  ([9, 10, 11, 12, 13, 32, 0x85, 0xA0, 0x1680, 0x2000, 0x2001, 0x2002, 0x2003, 0x2004, 0x2005,
    0x2006, 0x2007, 0x2008, 0x2009, 0x200A, 0x2028, 0x2029, 0x202F, 0x205F, 0x3000] : List Nat).map
    Char.ofNat

theorem mem_blankChars {c : Char} (h : isBlank c = true) : c ∈ blankChars := by
  refine List.mem_map.mpr ⟨c.toNat, ?_, Char.ofNat_toNat c⟩
  simp only [isBlank, Bool.or_eq_true, Bool.and_eq_true, decide_eq_true_eq, beq_iff_eq] at h
  simp only [List.mem_cons, List.not_mem_nil, or_false]
  omega

/-- White space has no case. -/
theorem lowerChars_of_blank {c : Char} (h : isBlank c = true) : lowerChars c = [c] := by
  have hall : (blankChars.all fun d => lowerChars d = [d]) = true := by decide +kernel
  exact List.all_iff_forall_prop.mp hall c (mem_blankChars h)

section SameLetter

variable {c d : Char}

theorem SameLetter.lowerChars_eq (h : SameLetter d c) (hc : c ∈ plainChars) :
    lowerChars d = [c] := h.trans (lowerChars_of_plain hc)

theorem SameLetter.isBlank_eq (h : SameLetter d c) (hc : c ∈ plainChars) : isBlank d = false := by
  refine Bool.eq_false_iff.mpr fun hd => ?_
  have heq : [d] = [c] := (lowerChars_of_blank hd).symm.trans (h.lowerChars_eq hc)
  rw [List.singleton_inj.mp heq, isBlank_of_plain hc] at hd
  cases hd

theorem SameLetter.ne_sigma (h : SameLetter d c) (hc : c ∈ plainChars) : d ≠ 'Σ' := by
  rintro rfl
  have hsigma : lowerChars 'Σ' = ['σ'] := by decide +kernel
  have hnot : 'σ' ∉ plainChars := by decide
  rw [List.singleton_inj.mp (hsigma.symm.trans (h.lowerChars_eq hc))] at hnot
  exact hnot hc

end SameLetter

/-- A word of digits and small letters. -/
def IsPlainWord (cs : List Char) : Prop := cs ≠ [] ∧ ∀ c ∈ cs, c ∈ plainChars

instance (cs : List Char) : Decidable (IsPlainWord cs) :=
  decidable_of_iff (cs ≠ [] ∧ (cs.all fun c => c ∈ plainChars) = true)
    (and_congr_right fun _ => List.all_iff_forall_prop)

theorem isBlank_of_sameLetters {ds cs : List Char} (h : List.Forall₂ SameLetter ds cs)
    (hcs : ∀ c ∈ cs, c ∈ plainChars) : ∀ d ∈ ds, isBlank d = false := by
  induction h with
  | nil => exact fun d hd => by cases hd
  | @cons d c ds cs hdc _ ih =>
    intro d' hd'
    rcases List.mem_cons.mp hd' with rfl | hd'
    · exact hdc.isBlank_eq (hcs c List.mem_cons_self)
    · exact ih (fun e he => hcs e (List.mem_cons_of_mem c he)) d' hd'

theorem isWord_of_sameLetters {ds cs : List Char} (h : List.Forall₂ SameLetter ds cs)
    (hcs : IsPlainWord cs) : IsWord ds := by
  refine ⟨fun hds => hcs.1 ?_, isBlank_of_sameLetters h hcs.2⟩
  rw [hds] at h
  exact List.forall₂_nil_left_iff.mp h

theorem IsPlainWord.isWord {cs : List Char} (h : IsPlainWord cs) : IsWord cs :=
  ⟨h.1, fun c hc => isBlank_of_plain (h.2 c hc)⟩

/-- Lower case undoes the difference between cases. -/
theorem lowerList_of_sameLetters {ds cs : List Char} (h : List.Forall₂ SameLetter ds cs)
    (hcs : ∀ c ∈ cs, c ∈ plainChars) : lowerList ds = cs := by
  suffices hafter : ∀ before, lowerAfter before ds = cs from hafter []
  induction h with
  | nil => exact fun _ => rfl
  | @cons d c ds cs hdc _ ih =>
    intro before
    have hc : c ∈ plainChars := hcs c List.mem_cons_self
    have hrest := ih (fun e he => hcs e (List.mem_cons_of_mem c he)) (d :: before)
    rw [lowerAfter, if_neg (hdc.ne_sigma hc), hdc.lowerChars_eq hc, hrest]
    rfl

theorem map_lowerList_of_sameLetters {vs ws : List (List Char)}
    (h : List.Forall₂ (List.Forall₂ SameLetter) vs ws) (hws : ∀ w ∈ ws, IsPlainWord w) :
    (∀ v ∈ vs, IsWord v) ∧ vs.map lowerList = ws := by
  induction h with
  | nil => exact ⟨(fun v hv => by cases hv), rfl⟩
  | @cons v w vs ws hvw _ ih =>
    have hw : IsPlainWord w := hws w List.mem_cons_self
    obtain ⟨hvs, heq⟩ := ih fun u hu => hws u (List.mem_cons_of_mem w hu)
    refine ⟨fun u hu => ?_, ?_⟩
    · rcases List.mem_cons.mp hu with rfl | hu
      · exact isWord_of_sameLetters hvw hw
      · exact hvs u hu
    · rw [List.map_cons, lowerList_of_sameLetters hvw hw.2, heq]

end Text

/-! ### The compared form -/

/-- The compared form does not depend on the case of the letters and on the white space. -/
theorem phraseOf_of_sameLetters {text : String} {vs ws : List (List Char)}
    (htext : Text.Spaced vs text.toList) (h : List.Forall₂ (List.Forall₂ Text.SameLetter) vs ws)
    (hws : ∀ w ∈ ws, Text.IsPlainWord w) :
    phraseOf text = String.ofList (List.intercalate [' '] ws) := by
  obtain ⟨hvs, hlower⟩ := Text.map_lowerList_of_sameLetters h hws
  rw [phraseOf, Text.words_of_spaced htext hvs, hlower]

/-- Trimming a text does not change its compared form. -/
theorem phraseOf_trim (text : String) : phraseOf (Text.trim text) = phraseOf text := by
  rw [phraseOf, Text.trim, String.toList_ofList, Text.words_trimList]
  rfl

/-- Marks in front are dropped, however many there are. -/
theorem dropHexMarks_marks (n : Nat) (cs : List Char) :
    dropHexMarks ((List.replicate n ['0', 'x']).flatten ++ cs) = dropHexMarks cs := by
  induction n with
  | zero => rfl
  | succ n ih =>
    rw [List.replicate_succ, List.flatten_cons, List.append_assoc]
    exact ih

/-- Nothing else is dropped. -/
theorem dropHexMarks_of_unmarked {cs : List Char} (h : ¬['0', 'x'] <+: cs) :
    dropHexMarks cs = cs := by
  unfold dropHexMarks
  split
  · next rest => exact absurd (List.prefix_append ['0', 'x'] rest) h
  · rfl

/-- Marks in front of a key without the letter `x` are dropped, and nothing else. -/
theorem dropHexMarks_append {key : List Char} (hkey : 'x' ∉ key) (n : Nat) :
    dropHexMarks ((List.replicate n ['0', 'x']).flatten ++ key) = key := by
  have hunmarked : ¬['0', 'x'] <+: key := fun h => hkey (h.subset (by simp))
  rw [dropHexMarks_marks, dropHexMarks_of_unmarked hunmarked]

/-! ### The secrets of new wallets -/

/-- The digits of hexadecimal numbers, in lower case. -/
def hexDigits : List Char := "0123456789abcdef".toList

theorem digitChar_mem_hexDigits {n : Nat} (h : n < 16) : Nat.digitChar n ∈ hexDigits := by
  have hall : ∀ m < 16, Nat.digitChar m ∈ hexDigits := by decide
  exact hall n h

theorem plain_of_hexDigit {c : Char} (h : c ∈ hexDigits) : c ∈ Text.plainChars := by
  have hall : (hexDigits.all fun d => d ∈ Text.plainChars) = true := by decide
  exact List.all_iff_forall_prop.mp hall c h

theorem mem_hexText {bytes : List UInt8} {c : Char} (h : c ∈ (hexText bytes).toList) :
    c ∈ hexDigits := by
  rw [hexText, String.toList_ofList] at h
  obtain ⟨b, -, hc⟩ := List.mem_flatMap.mp h
  have hb : b.toNat < 256 := b.toNat_lt
  rcases List.mem_cons.mp hc with rfl | hc
  · exact digitChar_mem_hexDigits (by omega)
  · rw [List.mem_singleton.mp hc]
    exact digitChar_mem_hexDigits (by omega)

theorem isPlainWord_of_phraseWord {w : String} (h : w ∈ phraseWords) :
    Text.IsPlainWord w.toList := by
  have hall : ∀ v ∈ phraseWords, Text.IsPlainWord v.toList := by decide +kernel
  exact hall w h

namespace WalletExport

/-- The wallet is made of random draws: 32 bytes for the key, 20 for the address, and as many words
as a recovery phrase has. -/
def IsDrawn (e : WalletExport) : Prop :=
  ∃ (key address : List UInt8) (words : List Nat),
    key.length = 32 ∧ address.length = 20 ∧ words.length = phraseLength ∧
      e = ofDraws key address words

/-- Every wallet that is made from a seed is. -/
theorem isDrawn_drawn (seed : UInt64) (n : Nat) : (drawn seed n).IsDrawn :=
  ⟨_, _, _, by simp, by simp, by simp, rfl⟩

variable {e : WalletExport}

theorem IsDrawn.mem_privateKey (h : e.IsDrawn) {c : Char} (hc : c ∈ e.privateKey.toList) :
    c ∈ hexDigits := by
  obtain ⟨key, address, words, -, -, -, rfl⟩ := h
  exact mem_hexText hc

theorem IsDrawn.isPlainWord_privateKey (h : e.IsDrawn) :
    Text.IsPlainWord e.privateKey.toList := by
  refine ⟨?_, fun c hc => plain_of_hexDigit (h.mem_privateKey hc)⟩
  obtain ⟨_ | ⟨b, key⟩, address, words, hlength, -, -, rfl⟩ := h
  · cases hlength
  · simp [ofDraws, hexText, hexByte]

/-- The recovery phrase is made of words of the list, with one space between them. -/
theorem IsDrawn.mnemonic_eq (h : e.IsDrawn) :
    ∃ ws, ws ≠ [] ∧ (∀ w ∈ ws, Text.IsPlainWord w) ∧
      e.mnemonic.toList = List.intercalate [' '] ws := by
  obtain ⟨key, address, words, -, -, hlength, rfl⟩ := h
  refine ⟨(words.map fun n => phraseWords.getD (n % phraseWords.length) "").map String.toList,
    ?_, fun w hw => ?_, ?_⟩
  · rintro hnil
    rw [List.map_eq_nil_iff, List.map_eq_nil_iff] at hnil
    rw [hnil] at hlength
    cases hlength
  · obtain ⟨v, hv, rfl⟩ := List.mem_map.mp hw
    obtain ⟨n, -, rfl⟩ := List.mem_map.mp hv
    have hn : n % phraseWords.length < phraseWords.length := Nat.mod_lt n (by decide)
    rw [List.getD_eq_getElem?_getD, List.getElem?_eq_getElem hn]
    exact isPlainWord_of_phraseWord (List.getElem_mem hn)
  · exact String.toList_intercalate

theorem IsDrawn.words_mnemonic (h : e.IsDrawn) :
    Text.words e.mnemonic.toList ≠ [] ∧
      (∀ w ∈ Text.words e.mnemonic.toList, Text.IsPlainWord w) ∧
      e.mnemonic.toList = List.intercalate [' '] (Text.words e.mnemonic.toList) := by
  obtain ⟨ws, hne, hws, heq⟩ := h.mnemonic_eq
  have hwords : Text.words e.mnemonic.toList = ws := by
    rw [heq]
    exact Text.words_of_spaced (Text.spaced_intercalate ws) fun w hw => (hws w hw).isWord
  rw [hwords]
  exact ⟨hne, hws, heq⟩

/-! ### Spellings -/

/-- The ways to write the private key or the recovery phrase of a wallet. -/
inductive Spelling (e : WalletExport) : String → Prop
  /-- The key in any case, with any number of marks in front and any white space around. -/
  | key (marks : List (List Char)) (digits : List Char) (text : String)
    (hmarks : ∀ mark ∈ marks, mark = ['0', 'x'] ∨ mark = ['0', 'X'])
    (hdigits : List.Forall₂ Text.SameLetter digits e.privateKey.toList)
    (htext : Text.Spaced [marks.flatten ++ digits] text.toList) : Spelling e text
  /-- The words of the phrase in any case, with any white space between them and around. -/
  | phrase (ws : List (List Char)) (text : String)
    (hws : List.Forall₂ (List.Forall₂ Text.SameLetter) ws (Text.words e.mnemonic.toList))
    (htext : Text.Spaced ws text.toList) : Spelling e text

/-- A mark in either case is a mark. -/
theorem sameLetters_marks {marks : List (List Char)}
    (hmarks : ∀ mark ∈ marks, mark = ['0', 'x'] ∨ mark = ['0', 'X']) :
    List.Forall₂ Text.SameLetter marks.flatten
      (List.replicate marks.length ['0', 'x']).flatten := by
  have hx : Text.SameLetter 'X' 'x' := by decide
  induction marks with
  | nil => exact .nil
  | cons mark marks ih =>
    have hrest := ih fun m hm => hmarks m (List.mem_cons_of_mem mark hm)
    rw [List.length_cons, List.replicate_succ, List.flatten_cons, List.flatten_cons]
    rcases hmarks mark List.mem_cons_self with rfl | rfl
    · exact .cons rfl (.cons rfl hrest)
    · exact .cons rfl (.cons hx hrest)

/-- Only marks are left of the differences between the ways to write a key. -/
theorem IsDrawn.phraseOf_key (h : e.IsDrawn) {marks : List (List Char)} {digits : List Char}
    {text : String} (hmarks : ∀ mark ∈ marks, mark = ['0', 'x'] ∨ mark = ['0', 'X'])
    (hdigits : List.Forall₂ Text.SameLetter digits e.privateKey.toList)
    (htext : Text.Spaced [marks.flatten ++ digits] text.toList) :
    phraseOf text = String.ofList
      ((List.replicate marks.length ['0', 'x']).flatten ++ e.privateKey.toList) := by
  obtain ⟨hne, hplain⟩ := h.isPlainWord_privateKey
  have hsame := List.rel_append (sameLetters_marks hmarks) hdigits
  have hmark : Text.IsPlainWord ['0', 'x'] := by decide
  have hword : Text.IsPlainWord
      ((List.replicate marks.length ['0', 'x']).flatten ++ e.privateKey.toList) := by
    refine ⟨fun hnil => hne (List.append_eq_nil_iff.mp hnil).2, fun c hc => ?_⟩
    rcases List.mem_append.mp hc with hc | hc
    · obtain ⟨mark, hm, hcm⟩ := List.mem_flatten.mp hc
      rw [List.eq_of_mem_replicate hm] at hcm
      exact hmark.2 c hcm
    · exact hplain c hc
  rw [phraseOf_of_sameLetters htext (.cons hsame .nil)
    fun w hw => List.mem_singleton.mp hw ▸ hword]
  simp

theorem IsDrawn.keyOf_key (h : e.IsDrawn) (n : Nat) :
    keyOf (String.ofList ((List.replicate n ['0', 'x']).flatten ++ e.privateKey.toList)) =
      e.privateKey := by
  have hx : 'x' ∉ e.privateKey.toList := by
    intro hx
    have hnot : 'x' ∉ hexDigits := by decide
    exact hnot (h.mem_privateKey hx)
  rw [keyOf, String.toList_ofList, dropHexMarks_append hx, String.ofList_toList]

/-- Nothing is left of the differences between the ways to write a phrase. -/
theorem IsDrawn.phraseOf_phrase (h : e.IsDrawn) {ws : List (List Char)} {text : String}
    (hws : List.Forall₂ (List.Forall₂ Text.SameLetter) ws (Text.words e.mnemonic.toList))
    (htext : Text.Spaced ws text.toList) : phraseOf text = e.mnemonic := by
  obtain ⟨-, hplain, heq⟩ := h.words_mnemonic
  rw [phraseOf_of_sameLetters htext hws hplain, ← heq, String.ofList_toList]

/-- However the secrets of a new wallet are written, they select what is stored of it. -/
theorem Spelling.matches (h : e.IsDrawn) {text : String} (ht : e.Spelling text)
    {w : StoredWallet} (hkey : w.privateKey = e.privateKey) (hphrase : w.mnemonic = e.mnemonic) :
    w.matches (phraseOf text) = true := by
  rw [StoredWallet.matches, Bool.or_eq_true, beq_iff_eq, beq_iff_eq, hkey, hphrase]
  cases ht with
  | key marks digits text hmarks hdigits htext =>
    rw [h.phraseOf_key hmarks hdigits htext]
    exact .inl (h.keyOf_key marks.length).symm
  | phrase ws text hws htext => exact .inr (h.phraseOf_phrase hws htext).symm

/-- A way to write secrets is never blank. -/
theorem Spelling.trim_ne (h : e.IsDrawn) {text : String} (ht : e.Spelling text) :
    Text.trim text ≠ "" := by
  intro hblank
  have hphrase : phraseOf text = "" := by
    rw [← phraseOf_trim, hblank]
    rfl
  cases ht with
  | key marks digits text hmarks hdigits htext =>
    rw [h.phraseOf_key hmarks hdigits htext] at hphrase
    have hnil := congrArg String.toList hphrase
    rw [String.toList_ofList] at hnil
    exact h.isPlainWord_privateKey.1 (List.append_eq_nil_iff.mp hnil).2
  | phrase ws text hws htext =>
    rw [h.phraseOf_phrase hws htext] at hphrase
    refine h.words_mnemonic.1 ?_
    rw [hphrase]
    rfl

end WalletExport

end WalletDashboard
