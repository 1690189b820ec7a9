import CommentSchema.Config.Overrides

/-! Settings that are given stand for themselves.  Neither the files nor the environment have a
say in what is made of them, but for the settings without any entry: these are taken for none,
and others are loaded in their place. -/

namespace CommentSchema.Config

/-- What is made of some settings is the same in all surroundings, errors included. -/
def SelfContained [Dialect] (given : Value) : Prop :=
  ∀ overrides first second, make (some given) overrides first = make (some given) overrides second

theorem make_congr [Dialect] {given given' : Option Value} {first second : Surroundings}
    (same : Settings.make given first = Settings.make given' second) (overrides : Overrides) :
    make given overrides first = make given' overrides second := by
  rw [make, make, same]

section

variable {given : Value}

theorem settings_of_holds (holds : given.holds = true) (first second : Surroundings) :
    Settings.make (some given) first = Settings.make (some given) second := by
  simp only [Settings.make, if_pos holds]

theorem settings_of_not_holds (empty : given.holds = false) (surroundings : Surroundings) :
    Settings.make (some given) surroundings = Settings.make none surroundings := by
  simp only [Settings.make, empty]
  rfl

end

def bare : Surroundings := ⟨⟨[], none⟩, ⟨[], none⟩, {}⟩

def demanding : Surroundings := { bare with environment := { strict := some "1".toList } }

theorem strict_bare [Dialect] : (make (some (.dict [])) {} bare).map (·.1.strict) = .ok false := rfl

theorem strict_demanding [Dialect] :
    (make (some (.dict [])) {} demanding).map (·.1.strict) = .ok true := rfl

/-- A dictionary of settings is self-contained if and only if it has an entry.  Without entries
it stands for no settings at all, so that the surroundings decide. -/
theorem selfContained_dict_iff [Dialect] (entries : List (Value × Value)) :
    (SelfContained (.dict entries) ↔ entries ≠ []) ∧
      ∀ overrides surroundings,
        make (some (.dict [])) overrides surroundings = make none overrides surroundings := by
  refine ⟨⟨fun contained empty => ?_, fun nonempty overrides first second => ?_⟩,
    fun overrides surroundings => ?_⟩
  · subst empty
    have lenient := strict_bare
    rw [contained {} bare demanding, strict_demanding] at lenient
    cases lenient
  · have holds : (Value.dict entries).holds = true := by simpa [Value.holds] using nonempty
    exact make_congr (settings_of_holds holds first second) overrides
  · exact make_congr (settings_of_not_holds rfl surroundings) overrides

/-- Without entries the environment says whether an interpreter is strict. -/
theorem make_emptySettings :
    (make (some (.dict [])) {} bare).map (·.1.strict) = .ok false ∧
      (make (some (.dict [])) {} demanding).map (·.1.strict) = .ok true :=
  ⟨strict_bare, strict_demanding⟩

end CommentSchema.Config
