import Mathlib.Data.List.Nodup
import WalletDashboard.Proofs.Resolving

/-!
# What the variable for a setting is called

The variable for the setting `name` of the section `part` is called `APP__PART__NAME`, with two
underscores in either place (`variableName`). With one underscore behind `APP` it would look as if
it were for the same setting (`briefName`), but it is for none, and is passed over without an error.

* `environmentLayer_eq_nil`: variables without the mark of the settings give no layer.
* `Sources.source?_of_only`: where the settings come from if a single variable is for one of them.

`loadFound_only` puts the two names side by side.
-/

namespace WalletDashboard

/-- The variable for a setting, in lower case, if there were one underscore behind `app`. -/
def briefName (part name : String) : String := "app_" ++ part ++ "__" ++ name

/-- Every variable whose name begins with `app`, in any case, is called `name` and has the value
`text`. -/
def OnlyVariable (name text : String) (environment : List (String × String)) : Prop :=
  ∀ e ∈ environment, "app".toList <+: (Text.lower e.1).toList → Text.lower e.1 = name ∧ e.2 = text

instance (name text : String) (environment : List (String × String)) :
    Decidable (OnlyVariable name text environment) :=
  inferInstanceAs (Decidable (∀ e ∈ environment,
    "app".toList <+: (Text.lower e.1).toList → Text.lower e.1 = name ∧ e.2 = text))

section Names

variable {part name p n text : String} {environment : List (String × String)}

theorem app_isPrefix_of_variableMark {cs : List Char} (h : variableMark <+: cs) :
    "app".toList <+: cs := by
  have hmark : "app".toList <+: variableMark := by decide
  exact hmark.trans h

/-- The second underscore is missing. -/
theorem not_variableMark_isPrefix_briefName (hpart : part.toList.head? ≠ some '_')
    (hne : part.toList ≠ []) (name : String) : ¬ variableMark <+: (briefName part name).toList := by
  obtain ⟨c, cs, hcs⟩ := List.exists_cons_of_ne_nil hne
  have hc : '_' ≠ c := by
    rintro rfl
    rw [hcs] at hpart
    exact hpart rfl
  simp [briefName, variableMark, hcs, List.cons_prefix_cons, hc]

theorem environmentLayer_eq_nil
    (h : ∀ e ∈ environment, ¬ variableMark <+: (Text.lower e.1).toList) :
    environmentLayer environment = [] := by
  induction environment using List.reverseRecOn with
  | nil => rfl
  | append_singleton environment e ih =>
    have hlast : settingKey? e.1 = none := settingKey?_eq_none (h e (by simp))
    rw [environmentLayer_concat, hlast]
    exact ih fun v hv => h v (List.mem_append_left _ hv)

theorem environmentLayer_of_only_briefName (hpart : part.toList.head? ≠ some '_')
    (hne : part.toList ≠ []) (h : OnlyVariable (briefName part name) text environment) :
    environmentLayer environment = [] := by
  refine environmentLayer_eq_nil fun e he hmark => ?_
  rw [(h e he (app_isPrefix_of_variableMark hmark)).1] at hmark
  exact not_variableMark_isPrefix_briefName hpart hne name hmark

/-- A name is that of one setting only. -/
theorem eq_of_variableName_eq (hpart : IsPart part) (hname : IsName name) (hp : IsPart p)
    (hn : IsName n) {v : String} (h : Text.lower v = variableName part name)
    (h' : Text.lower v = variableName p n) : part = p ∧ name = n := by
  have hkeys :=
    (settingKey?_of_lower_eq hpart hname h).symm.trans (settingKey?_of_lower_eq hp hn h')
  exact (fieldKey_inj hpart.toIsName hname hp.toIsName hn).mp (Option.some.inj hkeys)

end Names

/-! ### One variable for one setting -/

theorem SettingField.eq_of_mem_all {f g : Σ α : Type, SettingField α} (hf : f ∈ SettingField.all)
    (hg : g ∈ SettingField.all) (h : f.2.part = g.2.part ∧ f.2.name = g.2.name) : f = g := by
  have hnodup : (SettingField.all.map fun f => (f.2.part, f.2.name)).Nodup := by decide
  exact List.inj_on_of_nodup_map hnodup hf hg (Prod.ext h.1 h.2)

namespace Sources

variable {part name p n text : String} {s : Sources}

theorem wellNamed_of_only (hpart : IsPart part) (hname : IsName name)
    (h : OnlyVariable (variableName part name) text s.environment) : WellNamed s.environment :=
  fun e he hmark =>
    ⟨part, name, hpart, hname, (h e he (app_isPrefix_of_variableMark hmark)).1⟩

theorem exists_of_environmentValue? {t : String} (h : s.environmentValue? part name = some t) :
    ∃ e ∈ s.environment, Text.lower e.1 = variableName part name ∧ e.2 = t := by
  obtain ⟨before, after, heq, -⟩ := List.lookup_eq_some_iff.mp h
  have hmem : (variableName part name, t) ∈ Setting.lowered s.environment := by
    rw [← List.mem_reverse, heq]
    simp
  obtain ⟨e, he, hpair⟩ := List.mem_map.mp hmem
  exact ⟨e, he, (Prod.mk.inj hpair).1, (Prod.mk.inj hpair).2⟩

theorem environmentValue?_eq_none_iff :
    s.environmentValue? part name = none ↔
      ∀ e ∈ s.environment, Text.lower e.1 ≠ variableName part name := by
  rw [environmentValue?, List.lookup_eq_none_iff]
  simp only [Setting.lowered, List.mem_reverse, List.forall_mem_map, bne_iff_ne, ne_comm]

/-- The setting that the only variable is for has its value. -/
theorem source?_of_only (h : OnlyVariable (variableName part name) text s.environment)
    (hset : ∃ e ∈ s.environment, Text.lower e.1 = variableName part name) :
    s.source? part name = some (.text text) := by
  obtain ⟨e, he, hlower⟩ := hset
  cases hvalue : s.environmentValue? part name with
  | none => exact absurd hlower (environmentValue?_eq_none_iff.mp hvalue e he)
  | some t =>
    obtain ⟨e', he', hlower', rfl⟩ := exists_of_environmentValue? hvalue
    have hmark : "app".toList <+: (Text.lower e'.1).toList := by
      rw [hlower', toList_variableName]
      exact app_isPrefix_of_variableMark (List.prefix_append _ _)
    rw [source?, hvalue, (h e' he' hmark).2]
    rfl

/-- All other settings come from where they come without it. -/
theorem source?_of_only_ne (hpart : IsPart part) (hname : IsName name) (hp : IsPart p)
    (hn : IsName n) (hne : ¬(part = p ∧ name = n))
    (h : OnlyVariable (variableName part name) text s.environment) :
    s.source? p n = { s with environment := [] }.source? p n := by
  have hnone : s.environmentValue? p n = none := by
    refine environmentValue?_eq_none_iff.mpr fun e he hlower => ?_
    have hmark : "app".toList <+: (Text.lower e.1).toList := by
      rw [hlower, toList_variableName]
      exact app_isPrefix_of_variableMark (List.prefix_append _ _)
    exact hne (eq_of_variableName_eq hpart hname hp hn (h e he hmark).1 hlower)
  rw [source?, hnone]
  rfl

theorem resolve_of_only_iff {f : Σ α : Type, SettingField α} (hf : f ∈ SettingField.all)
    (h : OnlyVariable (variableName f.2.part f.2.name) text s.environment)
    (hset : ∃ e ∈ s.environment, Text.lower e.1 = variableName f.2.part f.2.name)
    (settings : Settings) :
    s.Resolve settings ↔
      f.2.read (.text text) = some (f.2.get settings) ∧
        ∀ g ∈ SettingField.all, g ≠ f →
          g.2.resolve? { s with environment := [] } = some (g.2.get settings) := by
  have hself : f.2.resolve? s = f.2.read (.text text) := by
    rw [SettingField.resolve?, source?_of_only h hset]
    rfl
  have hother : ∀ g ∈ SettingField.all, g ≠ f →
      g.2.resolve? s = g.2.resolve? { s with environment := [] } := by
    intro g hg hne
    obtain ⟨hpart, -, hname⟩ := SettingField.isPart_of_mem f hf
    obtain ⟨hp, -, hn⟩ := SettingField.isPart_of_mem g hg
    exact g.2.resolve?_congr (source?_of_only_ne hpart hname hp hn
      (fun heq => hne (SettingField.eq_of_mem_all hf hg heq).symm) h)
  constructor
  · intro hresolve
    refine ⟨hself.symm.trans (hresolve f hf), fun g hg hne => ?_⟩
    rw [← hother g hg hne, hresolve g hg]
  · rintro ⟨hread, hrest⟩ g hg
    by_cases heq : g = f
    · rw [heq, hself, hread]
    · rw [hother g hg heq, hrest g hg heq]

end Sources

/-! ### Loading -/

theorem loadFound_of_environmentLayer_eq_nil (readers : FileReaders)
    (found : Option (String × String)) {environment : List (String × String)}
    (h : environmentLayer environment = []) :
    Settings.loadFound found environment readers = Settings.loadFound found [] readers := by
  have hnil : environmentLayer [] = [] := rfl
  simp only [Settings.loadFound, Settings.load, h, hnil]

/-- **A variable with one underscore behind `APP` sets nothing, and one with two underscores sets
its setting.** With the first, whatever file there is, the settings are those without any variable.
With the second, over a file in any format whose sections are tables, the settings are those in which
this setting is read from the variable and every other one comes from where it comes without it, as
long as they can be used. -/
theorem loadFound_only {f : Σ α : Type, SettingField α} (hf : f ∈ SettingField.all)
    (readers : FileReaders) (found : Option (String × String)) (text : String) :
    (∀ environment, OnlyVariable (briefName f.2.part f.2.name) text environment →
      Settings.loadFound found environment readers = Settings.loadFound found [] readers) ∧
    ∀ s : Sources, entriesFound? readers found = some s.entries →
      { s with environment := [] }.WellFormed →
      OnlyVariable (variableName f.2.part f.2.name) text s.environment →
      (∃ e ∈ s.environment, Text.lower e.1 = variableName f.2.part f.2.name) →
      ∀ settings, Settings.loadFound found s.environment readers = .ok settings ↔
        f.2.read (.text text) = some (f.2.get settings) ∧
        (∀ g ∈ SettingField.all, g ≠ f →
          g.2.resolve? { s with environment := [] } = some (g.2.get settings)) ∧
        1 ≤ settings.dashboard.pageSize ∧ 1 ≤ settings.dashboard.refreshSeconds ∧
        (settings.service.useMemory = true ∨ Text.trim settings.service.apiUrl ≠ "") := by
  obtain ⟨hpart, hmem, hname⟩ := SettingField.isPart_of_mem f hf
  refine ⟨fun environment h => ?_, fun s hread hfile h hset settings => ?_⟩
  · have hhead : ∀ part ∈ Setting.partNames, part.toList.head? ≠ some '_' := by decide
    exact loadFound_of_environmentLayer_eq_nil readers found
      (environmentLayer_of_only_briefName (hhead _ hmem) hpart.nonempty h)
  · have hwell : s.WellFormed :=
      ⟨hfile.keysDiffer, hfile.plain, hfile.placed, hfile.sections,
        Sources.wellNamed_of_only hpart hname h⟩
    rw [loadFound_eq_ok_iff hread hwell, Sources.resolve_of_only_iff hf h hset, and_assoc,
      Settings.objection?_eq_none_iff]

/-- Both names for the address of the node, in capitals, without a file. -/
theorem loadFound_only_apiUrl :
    let f : Σ α : Type, SettingField α := ⟨_, SettingField.apiUrl⟩
    let brief := [("APP_SERVICE__API_URL", "http://node/rpc"), ("HOME", "/root")]
    let full := [("APP__SERVICE__API_URL", "http://node/rpc"), ("HOME", "/root")]
    f ∈ SettingField.all ∧ OnlyVariable (briefName f.2.part f.2.name) "http://node/rpc" brief ∧
      OnlyVariable (variableName f.2.part f.2.name) "http://node/rpc" full ∧
      Settings.loadFound none brief {} = Settings.loadFound none [] {} ∧
      Settings.loadFound none full {} = .ok { service := { apiUrl := "http://node/rpc" } } := by
  intro f brief full
  have hf : f ∈ SettingField.all := by simp [SettingField.all, f]
  have hbrief : OnlyVariable (briefName f.2.part f.2.name) "http://node/rpc" brief := by
    decide
  have hfull : OnlyVariable (variableName f.2.part f.2.name) "http://node/rpc" full := by
    decide
  have hset : ∃ e ∈ full, Text.lower e.1 = variableName f.2.part f.2.name :=
    ⟨_, List.mem_cons_self, by decide⟩
  obtain ⟨hnothing, hsets⟩ := loadFound_only hf {} none "http://node/rpc"
  refine ⟨hf, hbrief, hfull, hnothing brief hbrief, ?_⟩
  have hfile : Sources.WellFormed ⟨[], []⟩ :=
    ⟨by decide, by decide, ⟨_, rfl⟩, List.forall_mem_nil _, List.forall_mem_nil _⟩
  refine (hsets ⟨[], full⟩ rfl hfile hfull hset _).mpr
    ⟨rfl, ?_, by decide, by decide, .inr (by decide)⟩
  simp only [SettingField.all, List.forall_mem_cons]
  exact ⟨fun _ => rfl, fun hne => absurd rfl hne, fun _ => rfl, fun _ => rfl, fun _ => rfl,
    fun _ => rfl, fun _ => rfl, List.forall_mem_nil _⟩

/-- An address of the node that could be used, in a variable with one underscore behind `APP`, is
passed over. -/
theorem loadFound_briefName_apiUrl :
    SettingField.apiUrl.read (.text "http://10.0.0.1/rpc") = some "http://10.0.0.1/rpc" ∧
      Settings.validate { service := { apiUrl := "http://10.0.0.1/rpc" } } = .ok () ∧
      Settings.loadFound none [("APP_SERVICE__API_URL", "http://10.0.0.1/rpc")] = .ok {} ∧
      ({} : Settings).service.apiUrl ≠ "http://10.0.0.1/rpc" := by
  have hlayer : environmentLayer [("APP_SERVICE__API_URL", "http://10.0.0.1/rpc")] = [] :=
    environmentLayer_eq_nil (by simp only [List.forall_mem_singleton]; decide)
  have hload : Settings.loadFound none [] = .ok {} := by rfl
  exact ⟨by rfl, by rfl, (loadFound_of_environmentLayer_eq_nil {} none hlayer).trans hload, by decide⟩

end WalletDashboard
