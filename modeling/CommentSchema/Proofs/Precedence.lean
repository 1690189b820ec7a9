import CommentSchema.Config.Settings
import CommentSchema.Proofs.Json.Written

/-! Which layer of settings decides.  A layer decides a path where it has anything at it, or a
value in its way that is no dictionary; all else it leaves to the layer below.  What the
settings have at a path is what the highest layer says that decides it, and the environment
changes nothing but what it is about. -/

namespace CommentSchema

namespace Value

/-- The keys are different names, also in the dictionaries that stand under them. -/
inductive Tidy : Value → Prop where
  | plain {value : Value} (form : value.isDict = false) : Tidy value
  | dict {entries : List (Value × Value)} (names : List (List CodePoint))
      (keys : entries.map (·.1) = names.map .ofPoints) (distinct : names.Nodup)
      (values : ∀ entry ∈ entries, Tidy entry.2) : Tidy (.dict entries)

theorem map_insertEntry (entries : List (Value × Value)) (key value : Value) :
    (insertEntry entries key value).map (·.1) = insertMember (entries.map (·.1)) key := by
  induction entries with
  | nil => rfl
  | cons entry rest ih =>
      obtain ⟨first, stored⟩ := entry
      simp only [insertEntry, insertMember, List.map_cons, List.any_cons] at ih ⊢
      by_cases found : first.same key = true
      · simp [found]
      · simp only [found, Bool.false_eq_true, if_false, List.map_cons, ih, Bool.false_or]
        split <;> rfl

theorem tidy_insertEntry {entries : List (Value × Value)} {key : List CodePoint} {value : Value}
    (tidy : Tidy (.dict entries)) (tidyValue : Tidy value) :
    Tidy (.dict (insertEntry entries (.ofPoints key) value)) := by
  cases tidy with
  | plain form => cases form
  | dict names keys distinct values =>
      have found : (entries.map (·.1)).any (·.same (.ofPoints key)) = true ↔ key ∈ names := by
        simp [keys, List.any_eq_true, same_ofPoints_iff, ofPoints_inj]
      have inside : ∀ entry ∈ insertEntry entries (.ofPoints key) value, Tidy entry.2 := by
        clear keys found
        induction entries with
        | nil => simpa [insertEntry] using tidyValue
        | cons entry rest ih =>
            obtain ⟨first, stored⟩ := entry
            rw [List.forall_mem_cons] at values
            unfold insertEntry
            split
            · exact List.forall_mem_cons.mpr ⟨tidyValue, values.2⟩
            · exact List.forall_mem_cons.mpr ⟨values.1, ih values.2⟩
      by_cases member : key ∈ names
      · refine .dict names ?_ distinct inside
        rw [map_insertEntry, insertMember, if_pos (found.mpr member), keys]
      · refine .dict (names ++ [key]) ?_ ?_ inside
        · rw [map_insertEntry, insertMember, if_neg (mt found.mp member), keys]
          simp
        · rw [List.nodup_append]
          refine ⟨distinct, List.nodup_cons.mpr ⟨List.not_mem_nil, List.nodup_nil⟩, ?_⟩
          intro name listed other same different
          rw [List.mem_singleton] at same
          exact member (same ▸ different ▸ listed)

theorem tidy_ofEntries {entries : List (Value × Value)}
    (tidy : ∀ entry ∈ entries, ∃ key, entry.1 = .ofPoints key ∧ Tidy entry.2) :
    Tidy (ofEntries entries) := by
  have grows (entries found : List (Value × Value))
      (tidy : ∀ entry ∈ entries, ∃ key, entry.1 = .ofPoints key ∧ Tidy entry.2)
      (tidyFound : Tidy (.dict found)) : Tidy (.dict (entries.foldl
        (fun found entry => insertEntry found entry.1 entry.2) found)) := by
    induction entries generalizing found with
    | nil => exact tidyFound
    | cons entry rest ih =>
        obtain ⟨first, value⟩ := entry
        obtain ⟨⟨key, rfl, tidyValue⟩, tidyRest⟩ := List.forall_mem_cons.mp tidy
        exact ih _ tidyRest (tidy_insertEntry tidyFound tidyValue)
  have nothing : Tidy (.dict []) :=
    .dict [] rfl List.nodup_nil fun _ member => absurd member List.not_mem_nil
  exact grows entries [] tidy nothing

end Value

namespace Json

open Value (Tidy isDict_ofPoints tidy_ofEntries)
open Error (bind_eq_ok map_eq_ok)

/-- In step with the recursion of the reader, values and the members of objects together. -/
theorem tidy_value_and_members (limits : Limits) (steps : Nat) :
    (∀ depth text found rest, value limits steps depth text = .ok (found, rest) → Tidy found) ∧
    (∀ depth text found rest, members limits steps depth text = .ok (found, rest) →
      ∀ entry ∈ found, ∃ key, entry.1 = .ofPoints key ∧ Tidy entry.2) := by
  induction steps with
  | zero =>
      constructor
      · intro depth text found rest read
        cases read
      · intro depth text found rest read
        cases read
  | succ steps ih =>
      obtain ⟨inValue, inMembers⟩ := ih
      constructor
      · intro depth text found rest read
        unfold value at read
        split at read
        · obtain ⟨_, -, same⟩ := map_eq_ok.mp read
          cases same
          exact .plain (isDict_ofPoints _)
        · split at read
          · cases read
          · split at read
            · cases read
              exact .plain rfl
            · obtain ⟨_, -, same⟩ := map_eq_ok.mp read
              cases same
              exact .plain rfl
        · split at read
          · cases read
          · split at read
            · cases read
              exact .dict [] rfl List.nodup_nil (List.forall_mem_nil _)
            · obtain ⟨⟨members, after⟩, readMembers, same⟩ := map_eq_ok.mp read
              cases same
              exact tidy_ofEntries (inMembers _ _ _ _ readMembers)
        · exact .plain (isDict_of_atom read)
      · intro depth text found rest read
        unfold members at read
        split at read
        · obtain ⟨⟨name, after⟩, -, read⟩ := bind_eq_ok.mp read
          dsimp only at read
          split at read
          · obtain ⟨⟨content, after⟩, readContent, read⟩ := bind_eq_ok.mp read
            have first : ∃ key, Value.ofPoints name = .ofPoints key ∧ Tidy content :=
              ⟨name, rfl, inValue _ _ _ _ readContent⟩
            dsimp only at read
            split at read
            · cases read
              exact List.forall_mem_singleton.mpr first
            · obtain ⟨⟨others, after⟩, readOthers, read⟩ := bind_eq_ok.mp read
              cases read
              exact List.forall_mem_cons.mpr ⟨first, inMembers _ _ _ _ readOthers⟩
            · cases read
          · cases read
        · cases read

theorem tidy_read {limits : Limits} {text : Text} {found : Value}
    (success : read limits text = .ok found) : Tidy found := by
  unfold read at success
  split at success
  · cases success
  · obtain ⟨⟨value, rest⟩, readValue, success⟩ := bind_eq_ok.mp success
    dsimp only at success
    split at success
    · cases success
      exact (tidy_value_and_members limits _).1 _ _ _ _ readValue
    · cases success

end Json

namespace Config

open Value (Tidy lookup? insertEntry lookup?_insertEntry_ofPoints)
open Error (bind_eq_ok)

/-- A path goes from key to key through dictionaries; keys are given by their code points. -/
abbrev KeyPath := List (List CodePoint)

def pointsOf (name : String) : List CodePoint := name.toList.map .char

theorem key_eq (name : String) : key name = .ofPoints (pointsOf name) :=
  (Value.ofPoints_map_char _).symm

/-- What a layer says about a path: the value at it, that there is none, or nothing at all.  It
says that there is none where a dictionary is at the path, and where a value that is no
dictionary stands in the way. -/
def decision? (layer : Value) : KeyPath → Option (Option Value)
  | [] =>
      match layer with
      | .dict _ => some none
      | value => some (some value)
  | key :: rest =>
      match layer with
      | .dict entries => (lookup? entries (.ofPoints key)).bind fun inner => decision? inner rest
      | _ => some none

/-- The value at a path that is no dictionary. -/
def valueAt? (settings : Value) (path : KeyPath) : Option Value := (decision? settings path).join

theorem valueAt?_dict_cons (entries : List (Value × Value)) (key : List CodePoint)
    (rest : KeyPath) : valueAt? (.dict entries) (key :: rest) =
      (lookup? entries (.ofPoints key)).bind fun inner => valueAt? inner rest := by
  rw [valueAt?, decision?]
  cases lookup? entries (.ofPoints key) <;> rfl

theorem decision?_of_plain {layer : Value} (plain : layer.isDict = false) (key : List CodePoint)
    (rest : KeyPath) : decision? layer (key :: rest) = some none := by
  cases layer with
  | dict entries => cases plain
  | _ => rfl

theorem lookup?_of_not_mem {entries : List (Value × Value)} {names : List (List CodePoint)}
    (keys : entries.map (·.1) = names.map .ofPoints) {key : List CodePoint}
    (absent : key ∉ names) : lookup? entries (.ofPoints key) = none := by
  induction entries generalizing names with
  | nil => rfl
  | cons entry rest ih =>
      cases names with
      | nil => cases keys
      | cons name names =>
          obtain ⟨first, value⟩ := entry
          obtain ⟨same, others⟩ := List.cons.inj keys
          obtain rfl : first = .ofPoints name := same
          rw [List.mem_cons, not_or] at absent
          simp [lookup?, Value.same_ofPoints_iff, Value.ofPoints_inj, Ne.symm absent.1,
            ih others absent.2]

theorem lookup?_mergeEntries (base : List (Value × Value)) {upper : List (Value × Value)}
    (tidy : Tidy (.dict upper)) (key : List CodePoint) :
    lookup? (mergeEntries base upper) (.ofPoints key) =
      match lookup? upper (.ofPoints key) with
      | some value => some (mergeValue (lookup? base (.ofPoints key)) value)
      | none => lookup? base (.ofPoints key) := by
  cases tidy with
  | plain form => cases form
  | dict names keys distinct values =>
      clear values
      induction upper generalizing base names with
      | nil => rfl
      | cons entry rest ih =>
          cases names with
          | nil => cases keys
          | cons name names =>
              obtain ⟨first, value⟩ := entry
              obtain ⟨same, others⟩ := List.cons.inj keys
              obtain rfl : first = .ofPoints name := same
              obtain ⟨absent, distinct⟩ := List.nodup_cons.mp distinct
              rw [mergeEntries, ih _ names distinct others, lookup?_insertEntry_ofPoints]
              by_cases here : name = key
              · subst here
                simp [lookup?, Value.same_ofPoints_iff, lookup?_of_not_mem others absent]
              · simp [lookup?, Value.same_ofPoints_iff, Value.ofPoints_inj, here]

theorem tidy_of_lookup? {entries : List (Value × Value)} {key value : Value}
    (tidy : Tidy (.dict entries)) (found : lookup? entries key = some value) : Tidy value := by
  cases tidy with
  | plain form => cases form
  | dict names keys distinct values =>
      clear keys
      induction entries with
      | nil => cases found
      | cons entry rest ih =>
          obtain ⟨first, stored⟩ := entry
          rw [List.forall_mem_cons] at values
          unfold lookup? at found
          split at found
          · cases found
            exact values.1
          · exact ih found values.2

theorem mergeValue_of_plain (lower : Option Value) {upper : Value} (plain : upper.isDict = false) :
    mergeValue lower upper = upper := by
  cases upper with
  | dict entries => cases plain
  | _ => rw [mergeValue]; exact nofun

/-- What is no dictionary gives way to the upper layer as a whole. -/
theorem mergeValue_of_no_dict {lower : Option Value} (upper : Value)
    (plain : ∀ value ∈ lower, value.isDict = false) : mergeValue lower upper = upper := by
  unfold mergeValue
  split
  · split
    · cases plain _ rfl
    · rfl
  · rfl

/-- Where the upper layer decides a path it is as that layer says, and otherwise as below. -/
theorem valueAt?_mergeValue (lower : Option Value) {upper : Value} (tidy : Tidy upper)
    (path : KeyPath) : valueAt? (mergeValue lower upper) path =
      match decision? upper path with
      | some answer => answer
      | none => lower.bind fun value => valueAt? value path := by
  induction path generalizing lower upper with
  | nil =>
      cases upper with
      | dict entries =>
          unfold mergeValue
          split <;> rfl
      | _ => rw [mergeValue_of_plain lower rfl]; rfl
  | cons key rest ih =>
      cases form : upper.isDict with
      | false =>
          rw [mergeValue_of_plain lower form, decision?_of_plain form]
          rw [valueAt?, decision?_of_plain form]
          rfl
      | true =>
          obtain ⟨entries, rfl⟩ := Value.isDict_iff.mp form
          by_cases merges : ∃ base, lower = some (.dict base)
          · obtain ⟨base, rfl⟩ := merges
            rw [mergeValue, valueAt?_dict_cons, lookup?_mergeEntries base tidy, decision?]
            cases found : lookup? entries (.ofPoints key) with
            | none => rw [Option.bind_some, valueAt?_dict_cons]; rfl
            | some inner =>
                have merged := ih (lookup? base (.ofPoints key)) (tidy_of_lookup? tidy found)
                rw [Option.bind_some, Option.bind_some, Option.bind_some, valueAt?_dict_cons]
                exact merged
          · have plain : ∀ value ∈ lower, value.isDict = false := by
              intro value isLower
              cases form : value.isDict with
              | false => rfl
              | true =>
                  obtain ⟨base, rfl⟩ := Value.isDict_iff.mp form
                  exact absurd ⟨base, isLower⟩ merges
            have nothing : (lower.bind fun value => valueAt? value (key :: rest)) = none := by
              rw [Option.bind_eq_none_iff]
              intro value isLower
              rw [valueAt?, decision?_of_plain (plain value isLower)]
              rfl
            rw [mergeValue_of_no_dict _ plain, nothing, valueAt?]
            cases decision? (.dict entries) (key :: rest) <;> rfl

theorem tidy_of_read {file : File} {found : Value} (success : file.read = .ok found) :
    Tidy found := by
  unfold File.read at success
  split at success
  · cases success
    exact .dict [] rfl List.nodup_nil nofun
  · split at success
    · cases success
    · dsimp only at success
      split at success
      · next read =>
          cases success
          exact Json.tidy_read read
      all_goals cases success

section

variable {surroundings : Surroundings} {lower upper : List (Value × Value)}

/-- What is built in, what is set for all projects and what is set for this one. -/
def layered (lower upper : List (Value × Value)) : List (Value × Value) :=
  mergeEntries (mergeEntries defaults lower) upper

theorem load_eq (globally : surroundings.globalFile.read = .ok (.dict lower))
    (here : surroundings.projectFile.read = .ok (.dict upper)) :
    load surroundings = setLogLevel surroundings.environment
      (setStrict surroundings.environment (layered lower upper)) := by
  unfold load addLayer
  rw [globally, here]
  rfl

theorem valueAt?_mergeEntries (base : List (Value × Value)) (tidy : Tidy (.dict upper))
    (path : KeyPath) : valueAt? (.dict (mergeEntries base upper)) path =
      match decision? (.dict upper) path with
      | some answer => answer
      | none => valueAt? (.dict base) path := by
  have merged := valueAt?_mergeValue (some (.dict base)) tidy path
  rwa [mergeValue, Option.bind_some] at merged

theorem valueAt?_layered (tidyLower : Tidy (.dict lower)) (tidyUpper : Tidy (.dict upper))
    (path : KeyPath) : valueAt? (.dict (layered lower upper)) path =
      ([.dict upper, .dict lower, .dict defaults].findSome? fun layer =>
        decision? layer path).join := by
  rw [layered, valueAt?_mergeEntries _ tidyUpper, valueAt?_mergeEntries _ tidyLower]
  simp only [List.findSome?_cons, List.findSome?_nil]
  cases decision? (.dict upper) path with
  | some answer => rfl
  | none =>
      cases decision? (.dict lower) path with
      | some answer => rfl
      | none => cases found : decision? (.dict defaults) path <;> simp [valueAt?, found]

theorem decision?_dict_cons (entries : List (Value × Value)) (key : List CodePoint)
    (rest : KeyPath) : decision? (.dict entries) (key :: rest) =
      (lookup? entries (.ofPoints key)).bind fun inner => decision? inner rest := rfl

theorem decision?_insertEntry (settings : List (Value × Value)) (key : List CodePoint)
    (value : Value) {path : KeyPath} (apart : ¬ [key] <+: path) :
    decision? (.dict (insertEntry settings (.ofPoints key) value)) path =
      decision? (.dict settings) path := by
  cases path with
  | nil => rfl
  | cons first rest =>
      have different : key ≠ first := fun same => apart ⟨rest, by simp [same]⟩
      rw [decision?_dict_cons, decision?_dict_cons, lookup?_insertEntry_ofPoints,
        if_neg different]

theorem valueAt?_of_plain {value : Value} (plain : value.isDict = false) (path : KeyPath) :
    valueAt? value path = if path = [] then some value else none := by
  cases path with
  | nil =>
      cases value with
      | dict entries => cases plain
      | _ => rfl
  | cons key rest =>
      rw [valueAt?, decision?_of_plain plain]
      rfl

theorem valueAt?_insertEntry (settings : List (Value × Value)) (key : List CodePoint)
    (value : Value) (rest : KeyPath) :
    valueAt? (.dict (insertEntry settings (.ofPoints key) value)) (key :: rest) =
      valueAt? value rest := by
  rw [valueAt?_dict_cons, lookup?_insertEntry_ofPoints, if_pos rfl, Option.bind_some]

def strictPath : KeyPath := [pointsOf "strict"]

def levelPath : KeyPath := [pointsOf "logging", pointsOf "level"]

/-- The environment is about a path or about one above it; an empty level is none. -/
def Environment.Sets (environment : Environment) (path : KeyPath) : Prop :=
  environment.strict.isSome ∧ strictPath <+: path ∨
    (∃ level ∈ environment.logLevel, level ≠ []) ∧ levelPath <+: path

theorem setStrict_of_stated {environment : Environment} (settings : List (Value × Value))
    {text : Text} (stated : environment.strict = some text) :
    setStrict environment settings =
      insertEntry settings (.ofPoints (pointsOf "strict")) (.bool (saysYes text)) := by
  rw [setStrict, stated, ← key_eq]

theorem decision?_setStrict {environment : Environment} (settings : List (Value × Value))
    {path : KeyPath} (apart : ¬ (environment.strict.isSome ∧ strictPath <+: path)) :
    decision? (.dict (setStrict environment settings)) path = decision? (.dict settings) path := by
  cases stated : environment.strict with
  | none => rw [setStrict, stated]
  | some text =>
      rw [stated, Option.isSome_some] at apart
      rw [setStrict_of_stated settings stated]
      exact decision?_insertEntry settings _ _ fun below => apart ⟨rfl, below⟩

theorem valueAt?_setStrict {environment : Environment} (settings : List (Value × Value))
    {text : Text} (stated : environment.strict = some text) (rest : KeyPath) :
    valueAt? (.dict (setStrict environment settings)) (strictPath ++ rest) =
      if rest = [] then some (.bool (saysYes text)) else none := by
  rw [setStrict_of_stated settings stated]
  exact (valueAt?_insertEntry settings _ _ rest).trans (valueAt?_of_plain rfl rest)

theorem lookup?_setStrict_logging (environment : Environment) (settings : List (Value × Value)) :
    lookup? (setStrict environment settings) (key "logging") =
      lookup? settings (key "logging") := by
  cases stated : environment.strict with
  | none => rw [setStrict, stated]
  | some text =>
      rw [setStrict_of_stated settings stated, key_eq, lookup?_insertEntry_ofPoints,
        if_neg (by decide)]

theorem setLogLevel_of_empty {environment : Environment} (settings : List (Value × Value))
    (empty : environment.logLevel.getD [] = []) :
    setLogLevel environment settings = .ok settings := by
  unfold setLogLevel
  cases stated : environment.logLevel with
  | none => rfl
  | some level =>
      rw [stated, Option.getD_some] at empty
      rw [empty]

theorem setLogLevel_of_stated {environment : Environment} {settings logging : List (Value × Value)}
    {level : Text} (stated : environment.logLevel = some level) (visible : level ≠ [])
    (found : lookup? settings (key "logging") = some (.dict logging)) :
    setLogLevel environment settings = .ok (insertEntry settings (.ofPoints (pointsOf "logging"))
      (.dict (insertEntry logging (.ofPoints (pointsOf "level")) (.str level)))) := by
  rw [← key_eq, ← key_eq]
  cases level with
  | nil => exact absurd rfl visible
  | cons c rest =>
      unfold setLogLevel
      rw [stated, found]
      rfl

theorem decision?_insertLevel {settings logging : List (Value × Value)} (level : Value)
    (found : lookup? settings (key "logging") = some (.dict logging)) {path : KeyPath}
    (apart : ¬ levelPath <+: path) :
    decision? (.dict (insertEntry settings (.ofPoints (pointsOf "logging"))
        (.dict (insertEntry logging (.ofPoints (pointsOf "level")) level)))) path =
      decision? (.dict settings) path := by
  cases path with
  | nil => rfl
  | cons first rest =>
      by_cases isLogging : first = pointsOf "logging"
      · subst isLogging
        have inside : ¬ [pointsOf "level"] <+: rest := fun below =>
          apart (List.prefix_cons_inj _ |>.mpr below)
        rw [key_eq] at found
        rw [decision?_dict_cons, decision?_dict_cons, lookup?_insertEntry_ofPoints, if_pos rfl,
          found]
        exact decision?_insertEntry logging _ _ inside
      · exact decision?_insertEntry settings _ _ fun below =>
          isLogging (by simpa using (List.cons_prefix_cons.mp below).1.symm)

/-- Asked without an environment, the settings have at every path what the highest layer says
that decides it.  The environment then sets its own paths and leaves all others as they are. -/
theorem load_layered (globally : surroundings.globalFile.read = .ok (.dict lower))
    (here : surroundings.projectFile.read = .ok (.dict upper)) :
    let environment := surroundings.environment
    ∃ merged, load { surroundings with environment := {} } = .ok merged ∧
      (∀ path, valueAt? (.dict merged) path =
        ([.dict upper, .dict lower, .dict defaults].findSome? fun layer =>
          decision? layer path).join) ∧
      ((∃ logging, lookup? merged (.str "logging".toList) = some (.dict logging)) ∨
          environment.logLevel.getD [] = [] →
        ∃ settings, load surroundings = .ok settings ∧
          (∀ path, ¬ environment.Sets path →
            decision? (.dict settings) path = decision? (.dict merged) path) ∧
          (∀ text ∈ environment.strict, ∀ rest, valueAt? (.dict settings) (strictPath ++ rest) =
            if rest = [] then some (.bool (saysYes text)) else none) ∧
          (∀ level ∈ environment.logLevel, level ≠ [] → ∀ rest,
            valueAt? (.dict settings) (levelPath ++ rest) =
              if rest = [] then some (.str level) else none)) := by
  intro environment
  refine ⟨layered lower upper, load_eq globally here,
    valueAt?_layered (tidy_of_read globally) (tidy_of_read here), fun settable => ?_⟩
  rw [load_eq globally here]
  by_cases empty : environment.logLevel.getD [] = []
  · refine ⟨_, setLogLevel_of_empty _ empty, fun path apart => ?_, fun text stated => ?_, ?_⟩
    · exact decision?_setStrict _ fun set => apart (.inl set)
    · exact valueAt?_setStrict _ stated
    · intro level stated visible
      rw [stated, Option.getD_some] at empty
      exact absurd empty visible
  · obtain ⟨logging, found⟩ := settable.resolve_right empty
    obtain ⟨level, stated⟩ : ∃ level, environment.logLevel = some level := by
      cases stated : environment.logLevel with
      | none => exact absurd (by simp [stated]) empty
      | some level => exact ⟨level, rfl⟩
    have visible : level ≠ [] := by simpa [stated] using empty
    rw [← key, ← lookup?_setStrict_logging environment] at found
    refine ⟨_, setLogLevel_of_stated stated visible found, fun path apart => ?_,
      fun text strict rest => ?_, ?_⟩
    · rw [decision?_insertLevel _ found fun below => apart (.inr ⟨⟨level, stated, visible⟩, below⟩)]
      exact decision?_setStrict _ fun set => apart (.inl set)
    · rw [valueAt?, decision?_insertLevel _ found (by simp [levelPath, strictPath, pointsOf])]
      exact valueAt?_setStrict _ strict rest
    · intro level' stated' _ rest
      cases stated.symm.trans stated'
      exact (valueAt?_insertEntry _ _ _ _).trans
        ((valueAt?_insertEntry _ _ _ _).trans (valueAt?_of_plain rfl rest))

end

/-- A file that holds a value as it is written is read as the value. -/
theorem File.read_of_written {file : File} {bytes : List UInt8} {value : Value} (ascii : Bool)
    (stored : file.content = some bytes)
    (decoded : (decode? bytes).map Text.normalizeLines = some (Json.write ascii value))
    (plain : Value.Plain false value) (shallow : value.nesting ≤ 990) :
    file.read = .ok value := by
  obtain ⟨text, decodes, normal⟩ := Option.map_eq_some_iff.mp decoded
  rw [File.read, stored]
  simp only [decodes, normal, Json.read_write plain shallow ascii]

def hiddenValue : Surroundings where
  globalFile := ⟨[], some "\x7b\"a\": \x7b\"b\": 1, \"c\": 2\x7d\x7d".toUTF8.toList⟩
  projectFile := ⟨[], some
    "\x7b\"a\": \x7b\"b\": \x7b\x7d\x7d, \"logging\": \x7b\"x\": null\x7d\x7d".toUTF8.toList⟩
  environment := { strict := some " Yes".toList, logLevel := some "debug".toList }

theorem load_layered_hiddenValue :
    let lower := [(.str "a".toList, .dict [(.str "b".toList, .int 1), (.str "c".toList, .int 2)])]
    let upper := [(.str "a".toList, .dict [(.str "b".toList, .dict [])]),
      (.str "logging".toList, .dict [(.str "x".toList, .null)])]
    hiddenValue.globalFile.read = .ok (.dict lower) ∧
      hiddenValue.projectFile.read = .ok (.dict upper) ∧
      ∃ settings, load hiddenValue = .ok settings ∧
        valueAt? (.dict settings) [pointsOf "a", pointsOf "b"] = none ∧
        valueAt? (.dict settings) [pointsOf "a", pointsOf "c"] = some (.int 2) ∧
        valueAt? (.dict settings) [pointsOf "logging", pointsOf "x"] = some .null ∧
        valueAt? (.dict settings) levelPath = some (.str "debug".toList) ∧
        valueAt? (.dict settings) strictPath = some (.bool true) := by
  intro lower upper
  have plainLower : Value.Plain false (.dict lower) := by
    have numbers : ∀ member ∈ [("b".toList, Value.int 1), ("c".toList, .int 2)],
        Value.Plain false member.2 := by
      simp only [List.forall_mem_cons, List.not_mem_nil, false_implies, implies_true, and_true]
      exact ⟨.int 1 (by decide), .int 2 (by decide)⟩
    exact .singleton (.dict (by decide) numbers)
  have plainUpper : Value.Plain false (.dict upper) := by
    have none : ∀ member ∈ ([] : List (Text × Value)), Value.Plain false member.2 := nofun
    have entries : ∀ member ∈ [("a".toList, Value.dict [(.str "b".toList, .dict [])]),
        ("logging".toList, .dict [(.str "x".toList, .null)])], Value.Plain false member.2 := by
      simp only [List.forall_mem_cons, List.not_mem_nil, false_implies, implies_true, and_true]
      exact ⟨.singleton (.dict (by decide) none), .singleton .null⟩
    exact .dict (by decide) entries
  have globally : hiddenValue.globalFile.read = .ok (.dict lower) :=
    File.read_of_written true rfl (by decide +kernel) plainLower (by decide)
  have here : hiddenValue.projectFile.read = .ok (.dict upper) :=
    File.read_of_written true rfl (by decide +kernel) plainUpper (by decide)
  obtain ⟨merged, loaded, layers, set⟩ := load_layered globally here
  have whole : merged = layered lower upper := by
    have alone : load { hiddenValue with environment := {} } = .ok (layered lower upper) :=
      load_eq globally here
    exact Except.ok.inj (loaded.symm.trans alone)
  obtain ⟨settings, loaded, kept, strict, level⟩ := set (.inl ⟨[(.str "level".toList,
    .str "INFO".toList), (.str "x".toList, .null)], by rw [whole]; rfl⟩)
  have layered (path : KeyPath) (apart : ¬ hiddenValue.environment.Sets path) :
      valueAt? (.dict settings) path = valueAt? (.dict merged) path := by
    rw [valueAt?, kept path apart, valueAt?]
  refine ⟨globally, here, settings, loaded, ?_, ?_, ?_, ?_, ?_⟩
  · rw [layered _ (by simp [Environment.Sets, strictPath, levelPath, pointsOf]), layers]
    rfl
  · rw [layered _ (by simp [Environment.Sets, strictPath, levelPath, pointsOf]), layers]
    rfl
  · rw [layered _ (by simp [Environment.Sets, strictPath, levelPath, pointsOf]), layers]
    rfl
  · exact level "debug".toList rfl (by simp) []
  · have yes : saysYes " Yes".toList = true := by decide +kernel
    rw [← yes]
    exact strict " Yes".toList rfl []

end Config

end CommentSchema
