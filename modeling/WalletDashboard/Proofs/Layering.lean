import Mathlib.Data.Bool.AllAny
import Mathlib.Data.List.Chain
import Mathlib.Data.List.TakeDrop
import WalletDashboard.Proofs.WellFormed
import WalletDashboard.Settings.Load

/-!
# What the layers of settings leave

A setting is found in a table by the name of its section and its own (`Setting.field?`). Here is
what is found after a layer was put over what was there.

* `IsName`, `IsPart`: the names that the environment can write. Lower case leaves them as they are,
  the pair of underscores behind the name of a section becomes a dot (`dotted_append_pair`), and
  `part.name` leads to the setting `name` of the section `part` (`parsePath_fieldKey`).
* `Setting.lookup_mergeEntries`: a table put over another, if no two of its keys differ in case only.
* `Setting.lookup_overlay?`: a layer whose keys for the sections are plain.
* `Setting.exists_overlay?`: a layer of texts, each of them for a setting of a section.
* `lookup_environmentLayer`: the layer that the environment gives. Of several variables for one
  setting the last one counts.
-/

namespace WalletDashboard

/-! ### Names -/

/-- What a name in lower case consists of. -/
def nameChars : List Char := "0123456789abcdefghijklmnopqrstuvwxyz_- ".toList

/-- Of two neighbours at most one is an underscore. -/
def Apart (c d : Char) : Prop := c ≠ '_' ∨ d ≠ '_'

instance (c d : Char) : Decidable (Apart c d) := inferInstanceAs (Decidable (c ≠ '_' ∨ d ≠ '_'))

/-- The name of a setting, in lower case, without two underscores side by side. -/
structure IsName (name : String) : Prop where
  nonempty : name.toList ≠ []
  chars : ∀ c ∈ name.toList, c ∈ nameChars
  apart : name.toList.IsChain Apart

/-- The name of a section. An underscore at its end would be taken for one of the two behind it. -/
structure IsPart (part : String) : Prop extends IsName part where
  last : part.toList.getLast? ≠ some '_'

theorem isName_iff {name : String} :
    IsName name ↔ name.toList ≠ [] ∧ (name.toList.all fun c => c ∈ nameChars) = true ∧
      name.toList.IsChain Apart := by
  rw [List.all_iff_forall_prop]
  exact ⟨fun h => ⟨h.nonempty, h.chars, h.apart⟩, fun h => ⟨h.1, h.2.1, h.2.2⟩⟩

instance (name : String) : Decidable (IsName name) := decidable_of_iff _ isName_iff.symm

instance (part : String) : Decidable (IsPart part) :=
  decidable_of_iff (IsName part ∧ part.toList.getLast? ≠ some '_')
    ⟨fun ⟨h, hlast⟩ => ⟨h, hlast⟩, fun ⟨h, hlast⟩ => ⟨h, hlast⟩⟩

/-- The key of a setting in a section. -/
def fieldKey (part name : String) : String := part ++ "." ++ name

/-- The variable for a setting in a section, in lower case. -/
def variableName (part name : String) : String := "app__" ++ part ++ "__" ++ name

namespace Text

/-- A character that has no lower case stays. -/
theorem mem_lowerAfter {c : Char} (hsigma : c ≠ 'Σ') (hc : lowerChars c = [c]) {cs : List Char}
    (h : c ∈ cs) (before : List Char) : c ∈ lowerAfter before cs := by
  induction cs generalizing before with
  | nil => cases h
  | cons d cs ih =>
    rw [lowerAfter]
    rcases List.mem_cons.mp h with rfl | h
    · rw [if_neg hsigma, hc]
      exact List.mem_append_left _ (List.mem_singleton_self c)
    · exact List.mem_append_right _ (ih h _)

/-- Lower case changes nothing where nothing is a capital. -/
theorem lowerList_of_forall {cs : List Char} (h : ∀ c ∈ cs, c ≠ 'Σ' ∧ lowerChars c = [c]) :
    lowerList cs = cs := by
  suffices hafter : ∀ before, lowerAfter before cs = cs from hafter []
  induction cs with
  | nil => exact fun _ => rfl
  | cons c cs ih =>
    intro before
    obtain ⟨hsigma, hc⟩ := h c List.mem_cons_self
    rw [lowerAfter, if_neg hsigma, hc, ih (fun d hd => h d (List.mem_cons_of_mem c hd))]
    rfl

end Text

theorem isKeyChar_of_mem_nameChars {c : Char} (h : c ∈ nameChars) : Setting.isKeyChar c = true := by
  have hall : nameChars.all Setting.isKeyChar = true := by decide
  exact List.all_eq_true.mp hall c h

theorem lowerChars_of_mem_nameChars {c : Char} (h : c ∈ nameChars) :
    c ≠ 'Σ' ∧ Text.lowerChars c = [c] := by
  have hall : (nameChars.all fun d => d ≠ 'Σ' ∧ Text.lowerChars d = [d]) = true := by decide
  exact List.all_iff_forall_prop.mp hall c h

section Names

variable {part name p n v : String}

theorem IsName.lower_eq (h : IsName name) : Text.lower name = name := by
  rw [Text.lower, Text.lowerList_of_forall fun c hc => lowerChars_of_mem_nameChars (h.chars c hc),
    String.ofList_toList]

theorem dotted_cons {c : Char} {cs : List Char} (h : ∀ d ∈ cs.head?, Apart c d) :
    dotted (c :: cs) = c :: dotted cs := by
  rw [dotted]
  rintro rest rfl rfl
  rcases h '_' rfl with hc | hd
  · exact hc rfl
  · exact hd rfl

/-- Without a pair of underscores there are no dots. -/
theorem dotted_of_apart {cs : List Char} (h : cs.IsChain Apart) : dotted cs = cs := by
  induction cs with
  | nil => rfl
  | cons c cs ih =>
    obtain ⟨hc, hrest⟩ := List.isChain_cons.mp h
    rw [dotted_cons hc, ih hrest]

/-- The pair behind the name of a section becomes a dot. -/
theorem dotted_append_pair {ps : List Char} (h : ps.IsChain Apart) (hlast : ps.getLast? ≠ some '_')
    (cs : List Char) : dotted (ps ++ '_' :: '_' :: cs) = ps ++ '.' :: dotted cs := by
  induction ps with
  | nil => rw [List.nil_append, dotted, List.nil_append]
  | cons p ps ih =>
    obtain ⟨hp, hrest⟩ := List.isChain_cons.mp h
    cases ps with
    | nil =>
      have hne : p ≠ '_' := fun e => hlast (congrArg some e)
      rw [List.cons_append, dotted_cons fun _ _ => .inl hne, List.nil_append, dotted]
      rfl
    | cons q ps =>
      have hq : ∀ d ∈ (q :: ps ++ '_' :: '_' :: cs).head?, Apart p d := hp
      rw [List.getLast?_cons_cons] at hlast
      rw [List.cons_append, dotted_cons hq, ih hrest hlast]
      rfl

theorem toList_fieldKey : (fieldKey part name).toList = part.toList ++ '.' :: name.toList := by
  simp [fieldKey]

theorem toList_variableName :
    (variableName part name).toList =
      variableMark ++ (part.toList ++ '_' :: '_' :: name.toList) := by
  simp [variableName, variableMark]

/-- A variable for a setting in a section gives that setting. -/
theorem settingKey?_of_lower_eq (hpart : IsPart part) (hname : IsName name)
    (hv : Text.lower v = variableName part name) : settingKey? v = some (fieldKey part name) := by
  have hmark : variableMark.isPrefixOf (variableName part name).toList = true := by
    rw [List.isPrefixOf_iff_prefix, toList_variableName]
    exact List.prefix_append _ _
  rw [settingKey?, hv]
  simp only [if_pos hmark]
  rw [toList_variableName, List.drop_left, dotted_append_pair hpart.apart hpart.last,
    dotted_of_apart hname.apart, ← toList_fieldKey, String.ofList_toList]

theorem span_isKeyChar (h : IsName name) {rest : List Char}
    (hrest : ∀ c ∈ rest.head?, Setting.isKeyChar c = false) :
    (name.toList ++ rest).span Setting.isKeyChar = (name.toList, rest) := by
  have hall : ∀ c ∈ name.toList, Setting.isKeyChar c = true :=
    fun c hc => isKeyChar_of_mem_nameChars (h.chars c hc)
  rw [List.span_eq_takeWhile_dropWhile, List.takeWhile_append_of_pos hall,
    List.dropWhile_append_of_pos hall]
  cases rest with
  | nil => rw [List.takeWhile_nil, List.append_nil, List.dropWhile_nil]
  | cons c rest =>
    have hc : ¬ Setting.isKeyChar c = true := Bool.eq_false_iff.mp (hrest c rfl)
    rw [List.takeWhile_cons_of_neg hc, List.append_nil, List.dropWhile_cons_of_neg hc]

/-- The path of a setting in a section has two steps. -/
theorem parsePath_fieldKey (hpart : IsName part) (hname : IsName name) :
    Setting.parsePath (fieldKey part name) = [.key part, .key name] := by
  have hdot : ∀ c ∈ ('.' :: name.toList).head?, Setting.isKeyChar c = false := by
    rintro c hc
    obtain rfl := Option.some.inj hc
    decide
  have hend : name.toList.span Setting.isKeyChar = (name.toList, []) := by
    simpa using @span_isKeyChar name hname [] (by simp)
  have hsteps : Setting.parseSteps (name.toList.length + 1) ('.' :: name.toList) =
      some [.key name] := by
    rw [Setting.parseSteps, hend]
    cases h : name.toList with
    | nil => exact absurd h hname.nonempty
    | cons c cs => simp [Setting.parseSteps, ← h]
  rw [Setting.parsePath, toList_fieldKey, span_isKeyChar hpart hdot]
  cases h : part.toList with
  | nil => exact absurd h hpart.nonempty
  | cons c cs => simp [hsteps, ← h]

theorem fieldKey_inj (hpart : IsName part) (hname : IsName name) (hp : IsName p) (hn : IsName n) :
    fieldKey part name = fieldKey p n ↔ part = p ∧ name = n := by
  refine ⟨fun h => ?_, fun ⟨hpart, hname⟩ => hpart ▸ hname ▸ rfl⟩
  have hpath := parsePath_fieldKey hpart hname
  rw [h, parsePath_fieldKey hp hn] at hpath
  simp only [List.cons.injEq, Setting.PathStep.key.injEq, and_true] at hpath
  exact ⟨hpath.1.symm, hpath.2.symm⟩

end Names

/-! ### Tables over tables -/

namespace Setting

@[simp] theorem entries_table (es : List (String × Setting)) : (table es).entries = es := rfl

@[simp] theorem mergeEntries_nil (target : Setting) : mergeEntries target [] = target := by
  rw [mergeEntries]

theorem mergeEntries_cons (target : Setting) (key : String) (v : Setting)
    (rest : List (String × Setting)) :
    mergeEntries target ((key, v) :: rest) = mergeEntries (put key v target) rest := by
  rw [put, mergeEntries, mergeEntries, mergeEntries_nil]

/-- Whatever is put over a value, a table comes of it. -/
theorem exists_put_eq (key : String) (v target : Setting) : ∃ es, put key v target = table es := by
  rw [put, mergeEntries, mergeEntries_nil]
  exact ⟨_, rfl⟩

theorem exists_mergeEntries_eq (before es : List (String × Setting)) :
    ∃ merged, mergeEntries (table before) es = table merged := by
  induction es generalizing before with
  | nil => exact ⟨before, mergeEntries_nil _⟩
  | cons e rest ih =>
    obtain ⟨es, h⟩ := exists_put_eq e.1 e.2 (table before)
    rw [mergeEntries_cons, h]
    exact ih es

theorem lookup_put (key k : String) (v target : Setting) :
    (put key v target).entries.lookup k =
      if k = Text.lower key then
        some (mergeInto ((target.entries.lookup k).getD (table [])) v)
      else target.entries.lookup k := by
  rw [put, mergeEntries, mergeEntries_nil]
  simp only [entries_table]
  rw [Json.lookup_insertEntry]
  split_ifs with h
  · rw [h]
  · rfl

/-- The entries with their keys in lower case. -/
def lowered {α : Type} (es : List (String × α)) : List (String × α) :=
  es.map fun e => (Text.lower e.1, e.2)

/-- No two keys differ in case only. -/
def KeysDiffer {α : Type} (es : List (String × α)) : Prop := ((lowered es).map Prod.fst).Nodup

instance {α : Type} (es : List (String × α)) : Decidable (KeysDiffer es) :=
  inferInstanceAs (Decidable ((lowered es).map Prod.fst).Nodup)

theorem lookup_eq_none_of_notMem {α : Type} {es : List (String × α)} {k : String}
    (h : k ∉ es.map Prod.fst) : es.lookup k = none := by
  refine List.lookup_eq_none_iff.mpr fun e he => bne_iff_ne.mpr ?_
  rintro rfl
  exact h (List.mem_map_of_mem he)

theorem mem_lowered_of_lookup {es : List (String × Setting)} {k : String} {v : Setting}
    (h : (lowered es).lookup k = some v) : ∃ e ∈ es, Text.lower e.1 = k ∧ e.2 = v := by
  obtain ⟨before, after, heq, -⟩ := List.lookup_eq_some_iff.mp h
  have hmem : (k, v) ∈ lowered es := by simp [heq]
  obtain ⟨e, he, hkv⟩ := List.mem_map.mp hmem
  exact ⟨e, he, (Prod.mk.inj hkv).1, (Prod.mk.inj hkv).2⟩

/-- What a table leaves that was put over another. -/
theorem lookup_mergeEntries {es : List (String × Setting)} (h : KeysDiffer es) (target : Setting)
    (k : String) :
    (mergeEntries target es).entries.lookup k =
      (((lowered es).lookup k).map
        (mergeInto ((target.entries.lookup k).getD (table [])))).or (target.entries.lookup k) := by
  induction es generalizing target with
  | nil => simp [lowered]
  | cons e rest ih =>
    obtain ⟨key, v⟩ := e
    obtain ⟨hkey, hrest⟩ := List.nodup_cons.mp h
    have hcons : lowered ((key, v) :: rest) = (Text.lower key, v) :: lowered rest := rfl
    rw [mergeEntries_cons, ih hrest, lookup_put, hcons, Json.lookup_cons_eq_ite]
    by_cases hk : k = Text.lower key
    · -- The key does not come again in the rest.
      subst hk
      have hnone : (lowered rest).lookup (Text.lower key) = none := lookup_eq_none_of_notMem hkey
      rw [hnone, if_pos rfl, if_pos rfl]
      rfl
    · rw [if_neg hk, if_neg hk]

/-! ### Settings in sections -/

/-- The setting `name` of the section `part`. -/
def field? (root : Setting) (part name : String) : Option Setting :=
  (root.entries.lookup part).bind (·.entries.lookup name)

/-- The names of the sections. -/
def partNames : List String := ["service", "dashboard"]

/-- A table whose sections are tables as far as there are any. -/
structure Sectioned (root : Setting) : Prop where
  isTable : ∃ es, root = table es
  parts : ∀ part ∈ partNames, ∀ v, root.entries.lookup part = some v → ∃ es, v = table es

/-! ### Keys of a layer -/

/-- The entry that a key leads to, or that the path which it writes leads through. -/
def rootName (key : String) : String :=
  match parsePath key with
  | .key name :: _ => Text.lower name
  | _ => ""

theorem exists_parsePath_eq (key : String) :
    ∃ name steps, parsePath key = .key name :: steps ∧ rootName key = Text.lower name := by
  have hpath : ∃ name steps, parsePath key = .key name :: steps := by
    unfold parsePath
    split
    · exact ⟨key, [], rfl⟩
    · split
      · exact ⟨_, _, rfl⟩
      · exact ⟨key, [], rfl⟩
  obtain ⟨name, steps, h⟩ := hpath
  exact ⟨name, steps, h, by rw [rootName, h]⟩

theorem parseSteps_of_ne {fuel : Nat} {c : Char} (hdot : c ≠ '.') (hbracket : c ≠ '[')
    (cs : List Char) : parseSteps fuel (c :: cs) = none := by
  cases fuel with
  | zero => rfl
  | succ fuel =>
    rw [parseSteps]
    · exact hdot
    · exact hbracket

/-- A path of several steps has a dot or a bracket in it. -/
theorem parsePath_eq_singleton {key : String} (hdot : '.' ∉ key.toList)
    (hbracket : '[' ∉ key.toList) : parsePath key = [.key key] := by
  rw [parsePath, List.span_eq_takeWhile_dropWhile]
  cases hrest : key.toList.dropWhile isKeyChar with
  | nil =>
    have hname : key.toList.takeWhile isKeyChar = key.toList := by
      have hsplit : key.toList.takeWhile isKeyChar ++ key.toList.dropWhile isKeyChar = key.toList :=
        List.takeWhile_append_dropWhile
      rwa [hrest, List.append_nil] at hsplit
    rw [hname]
    split
    · rfl
    · next name rest _ heq =>
      obtain ⟨rfl, rfl⟩ := Prod.mk.inj heq
      simp [parseSteps]
  | cons c cs =>
    have hmem : c ∈ key.toList :=
      (List.dropWhile_sublist isKeyChar).subset (by rw [hrest]; exact List.mem_cons_self)
    have hnone (fuel : Nat) : parseSteps fuel (c :: cs) = none :=
      parseSteps_of_ne (fun h => hdot (h ▸ hmem)) (fun h => hbracket (h ▸ hmem)) cs
    split
    · rfl
    · next name rest _ heq =>
      obtain ⟨rfl, rfl⟩ := Prod.mk.inj heq
      rw [hnone]

/-- The name of a section, in any case, is a path of one step. -/
theorem parsePath_of_lower_mem {key : String} (h : Text.lower key ∈ partNames) :
    parsePath key = [.key key] := by
  have hletters : ∀ part ∈ partNames, '.' ∉ part.toList ∧ '[' ∉ part.toList := by decide
  obtain ⟨hdot, hbracket⟩ := hletters _ h
  rw [Text.lower, String.toList_ofList] at hdot hbracket
  refine parsePath_eq_singleton (fun hmem => hdot ?_) (fun hmem => hbracket ?_)
  · exact Text.mem_lowerAfter (by decide) (by decide) hmem []
  · exact Text.mem_lowerAfter (by decide) (by decide) hmem []

/-- What is put where a path leads changes no entry but the one that it leads through. -/
theorem lookup_place? {v root placed : Setting} {name : String} {steps : List PathStep}
    (h : place? v (.key name :: steps) root = some placed) :
    (∃ es, placed = table es) ∧
      ∀ k ≠ Text.lower name, placed.entries.lookup k = root.entries.lookup k := by
  cases steps with
  | nil =>
    obtain rfl : put name v root = placed := Option.some.inj h
    exact ⟨exists_put_eq name v root, fun k hk => by rw [lookup_put, if_neg hk]⟩
  | cons step steps =>
    rw [place?] at h
    · obtain ⟨inner, -, hplaced⟩ := Option.bind_eq_some_iff.mp h
      obtain rfl := Option.some.inj hplaced
      exact ⟨⟨_, rfl⟩, fun k hk => by rw [entries_table, Json.lookup_insertEntry, if_neg hk]⟩
    · exact List.cons_ne_nil _ _

theorem overlay?_cons (root : Setting) (key : String) (v : Setting)
    (rest : List (String × Setting)) :
    overlay? root ((key, v) :: rest) = (place? v (parsePath key) root).bind (overlay? · rest) :=
  List.foldlM_cons

/-- A layer leaves in a section what its key for the section says, if every key that leads there is
plain. What other keys lead to does not matter. -/
theorem lookup_overlay? {es : List (String × Setting)} (h : KeysDiffer es)
    (hplain : ∀ e ∈ es, rootName e.1 ∈ partNames → parsePath e.1 = [.key e.1])
    {root overlaid : Setting} (hroot : ∃ before, root = table before)
    (hoverlaid : overlay? root es = some overlaid) :
    (∃ after, overlaid = table after) ∧ ∀ part ∈ partNames,
      overlaid.entries.lookup part =
        (((lowered es).lookup part).map
          (mergeInto ((root.entries.lookup part).getD (table [])))).or
            (root.entries.lookup part) := by
  induction es generalizing root with
  | nil =>
    obtain rfl : root = overlaid := Option.some.inj hoverlaid
    exact ⟨hroot, fun _ _ => rfl⟩
  | cons e rest ih =>
    obtain ⟨key, v⟩ := e
    obtain ⟨hkey, hrest⟩ := List.nodup_cons.mp h
    rw [overlay?_cons] at hoverlaid
    obtain ⟨placed, hplaced, hoverlaid⟩ := Option.bind_eq_some_iff.mp hoverlaid
    obtain ⟨name, steps, hpath, hname⟩ := exists_parsePath_eq key
    obtain ⟨htable, hothers⟩ := lookup_place? (hpath ▸ hplaced)
    obtain ⟨hafter, hparts⟩ :=
      ih hrest (fun e he => hplain e (List.mem_cons_of_mem _ he)) htable hoverlaid
    refine ⟨hafter, fun part hpart => ?_⟩
    have hcons : lowered ((key, v) :: rest) = (Text.lower key, v) :: lowered rest := rfl
    rw [hparts part hpart, hcons, Json.lookup_cons_eq_ite]
    by_cases hk : part = Text.lower key
    · -- The key is that of the section, and does not come again in the rest.
      subst hk
      have hput : put key v root = placed := by
        rw [parsePath_of_lower_mem hpart] at hplaced
        exact Option.some.inj hplaced
      have hnone : (lowered rest).lookup (Text.lower key) = none := lookup_eq_none_of_notMem hkey
      rw [hnone, ← hput, lookup_put, if_pos rfl, if_pos rfl]
      rfl
    · -- The key does not lead to the section.
      have hne : part ≠ Text.lower name := by
        rintro rfl
        have hsingle := hplain (key, v) List.mem_cons_self (hname ▸ hpart)
        rw [hpath] at hsingle
        obtain ⟨rfl, -⟩ : name = key ∧ steps = [] := by simpa using hsingle
        exact hk rfl
      rw [hothers part hne, if_neg hk]

/-! ### Settings in their places -/

section Placing

variable {part name : String} {root : Setting}

/-- A text is put where its key says, and all else stays. -/
theorem exists_place? (hpart : IsName part) (hname : IsName name) (hroot : Sectioned root)
    (t : String) :
    ∃ placed, place? (text t) (parsePath (fieldKey part name)) root = some placed ∧
      Sectioned placed ∧
      ∀ p n, placed.field? p n = if part = p ∧ name = n then some (text t) else root.field? p n := by
  let inner := put name (text t) ((root.entries.lookup part).getD null)
  refine ⟨table (Json.insertEntry part inner root.entries), ?_, ⟨⟨_, rfl⟩, ?_⟩, ?_⟩
  · rw [parsePath_fieldKey hpart hname]
    simp only [place?, hpart.lower_eq]
    rfl
  · intro p hp v hv
    rw [entries_table, Json.lookup_insertEntry] at hv
    split_ifs at hv with h
    · obtain rfl := Option.some.inj hv
      exact exists_put_eq _ _ _
    · exact hroot.parts p hp v hv
  · intro p n
    simp only [field?, entries_table, Json.lookup_insertEntry]
    by_cases hp : p = part
    · subst hp
      rw [if_pos rfl, Option.bind_some, lookup_put, hname.lower_eq]
      by_cases hn : n = name
      · subst hn
        simp [mergeInto]
      · rw [if_neg hn, if_neg fun h => hn h.2.symm]
        cases root.entries.lookup p <;> rfl
    · rw [if_neg hp, if_neg fun h => hp h.1.symm]

/-- A text for a setting in a section. -/
def IsFieldEntry (e : String × Setting) : Prop :=
  ∃ part name t, IsName part ∧ IsName name ∧ e = (fieldKey part name, text t)

/-- A layer of texts for settings can be put over anything that has sections. -/
theorem exists_overlay? {layer : List (String × Setting)} (hlayer : ∀ e ∈ layer, IsFieldEntry e)
    (hnodup : (layer.map Prod.fst).Nodup) (hroot : Sectioned root) :
    ∃ overlaid, overlay? root layer = some overlaid ∧ Sectioned overlaid ∧
      ∀ part name, IsName part → IsName name → overlaid.field? part name =
        (layer.lookup (fieldKey part name)).or (root.field? part name) := by
  induction layer generalizing root with
  | nil => exact ⟨root, rfl, hroot, fun _ _ _ _ => rfl⟩
  | cons e rest ih =>
    obtain ⟨hkey, hrest⟩ := List.nodup_cons.mp hnodup
    obtain ⟨part, name, t, hpart, hname, rfl⟩ := hlayer e List.mem_cons_self
    obtain ⟨placed, hplaced, hsections, hfields⟩ := exists_place? hpart hname hroot t
    obtain ⟨overlaid, hoverlaid, hsections, hall⟩ :=
      ih (fun e he => hlayer e (List.mem_cons_of_mem _ he)) hrest hsections
    refine ⟨overlaid, ?_, hsections, fun p n hp hn => ?_⟩
    · rw [overlay?_cons, hplaced]
      exact hoverlaid
    · rw [hall p n hp hn, hfields, Json.lookup_cons_eq_ite]
      by_cases h : part = p ∧ name = n
      · -- The rest of the layer does not have the key again.
        obtain ⟨rfl, rfl⟩ := h
        rw [lookup_eq_none_of_notMem hkey, if_pos ⟨rfl, rfl⟩, if_pos rfl]
        rfl
      · have hne : ¬ fieldKey p n = fieldKey part name := fun e =>
          h (((fieldKey_inj hp hn hpart hname).mp e).imp Eq.symm Eq.symm)
        rw [if_neg h, if_neg hne]

end Placing

end Setting

/-! ### The environment -/

/-- A variable for a setting in a section, in any case. -/
def IsFieldVariable (v : String) : Prop :=
  ∃ part name, IsPart part ∧ IsName name ∧ Text.lower v = variableName part name

/-- Every variable with the mark of the settings is for a setting in a section. -/
def WellNamed (environment : List (String × String)) : Prop :=
  ∀ e ∈ environment, variableMark <+: (Text.lower e.1).toList → IsFieldVariable e.1

section Environment

variable {environment : List (String × String)} {part name : String}

theorem environmentLayer_concat (environment : List (String × String)) (e : String × String) :
    environmentLayer (environment ++ [e]) =
      match settingKey? e.1 with
      | some key => Json.insertEntry key (Setting.text e.2) (environmentLayer environment)
      | none => environmentLayer environment := by
  rw [environmentLayer, List.foldl_append]
  rfl

theorem sorted_environmentLayer (environment : List (String × String)) :
    Json.Sorted (environmentLayer environment) := by
  induction environment using List.reverseRecOn with
  | nil => exact List.Pairwise.nil
  | append_singleton environment e ih =>
    rw [environmentLayer_concat]
    split
    · exact ih.insertEntry _ _
    · exact ih

theorem mem_environmentLayer {e : String × Setting} (h : e ∈ environmentLayer environment) :
    ∃ v ∈ environment, settingKey? v.1 = some e.1 ∧ e.2 = Setting.text v.2 := by
  induction environment using List.reverseRecOn with
  | nil => cases h
  | append_singleton environment last ih =>
    rw [environmentLayer_concat] at h
    split at h
    · next key hkey =>
      rcases Json.mem_insertEntry h with rfl | h
      · exact ⟨last, by simp, hkey, rfl⟩
      · obtain ⟨v, hv, hrest⟩ := ih h
        exact ⟨v, List.mem_append_left _ hv, hrest⟩
    · obtain ⟨v, hv, hrest⟩ := ih h
      exact ⟨v, List.mem_append_left _ hv, hrest⟩

theorem settingKey?_eq_none {v : String} (h : ¬ variableMark <+: (Text.lower v).toList) :
    settingKey? v = none := by
  rw [settingKey?]
  simp only [if_neg (mt List.isPrefixOf_iff_prefix.mp h)]

/-- What gives a setting is a variable for it. -/
theorem settingKey?_eq_some_iff (hpart : IsPart part) (hname : IsName name) {v : String}
    (hv : variableMark <+: (Text.lower v).toList → IsFieldVariable v) :
    settingKey? v = some (fieldKey part name) ↔ Text.lower v = variableName part name := by
  refine ⟨fun h => ?_, settingKey?_of_lower_eq hpart hname⟩
  by_cases hmark : variableMark <+: (Text.lower v).toList
  · obtain ⟨p, n, hp, hn, hlower⟩ := hv hmark
    rw [settingKey?_of_lower_eq hp hn hlower, Option.some.injEq,
      fieldKey_inj hp.toIsName hn hpart.toIsName hname] at h
    obtain ⟨rfl, rfl⟩ := h
    exact hlower
  · rw [settingKey?_eq_none hmark] at h
    cases h

theorem isFieldEntry_of_mem (h : WellNamed environment) {e : String × Setting}
    (he : e ∈ environmentLayer environment) : Setting.IsFieldEntry e := by
  obtain ⟨v, hv, hkey, htext⟩ := mem_environmentLayer he
  by_cases hmark : variableMark <+: (Text.lower v.1).toList
  · obtain ⟨part, name, hpart, hname, hlower⟩ := h v hv hmark
    rw [settingKey?_of_lower_eq hpart hname hlower] at hkey
    exact ⟨part, name, v.2, hpart.toIsName, hname, Prod.ext (Option.some.inj hkey).symm htext⟩
  · rw [settingKey?_eq_none hmark] at hkey
    cases hkey

theorem lookup_environmentLayer (h : WellNamed environment) (hpart : IsPart part)
    (hname : IsName name) :
    (environmentLayer environment).lookup (fieldKey part name) =
      ((Setting.lowered environment).reverse.lookup (variableName part name)).map Setting.text := by
  induction environment using List.reverseRecOn with
  | nil => rfl
  | append_singleton environment e ih =>
    have hbefore := ih fun v hv => h v (List.mem_append_left _ hv)
    have hkey := settingKey?_eq_some_iff hpart hname (h e (by simp))
    have hreverse : (Setting.lowered (environment ++ [e])).reverse =
        (Text.lower e.1, e.2) :: (Setting.lowered environment).reverse := by
      simp [Setting.lowered]
    rw [environmentLayer_concat, hreverse, Json.lookup_cons_eq_ite]
    by_cases hlower : Text.lower e.1 = variableName part name
    · rw [hkey.mpr hlower, if_pos hlower.symm]
      simp [Json.lookup_insertEntry]
    · rw [if_neg (Ne.symm hlower), ← hbefore]
      split
      · next key h =>
        rw [Json.lookup_insertEntry, if_neg]
        rintro rfl
        exact hlower (hkey.mp h)
      · rfl

end Environment

end WalletDashboard
