import GosuForge.Proofs.Association
import GosuForge.Proofs.Outcome
import GosuForge.Registry

/-!
# Histories of a registry

A registry takes calls one after the other, each with a language, a kind of generator and further
names. Letter case does not matter, and of several calls that say something of a name the last one
counts.

* `Registration`, `Registry.after`: calls, and the registry after a history of them;
* `Registry.perform_cases`: a call is refused and changes nothing, or it succeeds;
* `Registry.successes`, `Registry.Records`: the calls that succeed, and what a registry holds of
  them;
* `Registry.recorded`: every history is recorded;
* `Registry.resolve_after`: what a name stands for after a history, and what is made for it.
-/

namespace GosuForge

/-- Keys that all have the same value. -/
theorem Association.lookup_map_const (keys : List String) (v name : String) :
    (keys.map fun key => (key, v)).lookup name = if name ∈ keys then some v else none := by
  induction keys with
  | nil => rfl
  | cons key rest ih =>
    rw [List.map_cons, lookup_cons, ih]
    by_cases h : name = key <;> simp [h]

/-- The faults of a registry itself: of what it is given, and of what it is asked for. -/
def Fault.IsRegistry : Fault → Prop
  | notGenerator => True
  | unknownLanguage _ _ => True
  | settingsKind _ => True
  | creation _ _ => True
  | _ => False

/-- A call that registers a language; there is no kind where something else was given for it. -/
structure Registration where
  language : String
  kind : Option GeneratorKind
  aliases : Option (List String)
  deriving DecidableEq, Repr

namespace Registration

/-- The further names as they are handed over. -/
def aliasValue (call : Registration) : Value :=
  match call.aliases with
  | none => .null
  | some names => .arr (names.map .str)

/-- What a call answers, and the registry after it. -/
def perform (call : Registration) (r : Registry) : Except Fault Unit × Registry :=
  r.register (.str call.language) call.kind call.aliasValue

/-- The language that a call registers, without its letter case. -/
def key (call : Registration) : String := Text.lower call.language

/-- The further names without their letter case. -/
def aliasKeys (call : Registration) : List String := (call.aliases.getD []).map Text.lower

/-- The last of some calls that registers a language. -/
def lastOf (calls : List Registration) (key : String) : Option Registration :=
  calls.reverse.find? fun call => call.key = key

/-- The last of some calls that gives a further name. -/
def lastListing (calls : List Registration) (name : String) : Option Registration :=
  calls.reverse.find? fun call => name ∈ call.aliasKeys

theorem lastOf_concat (calls : List Registration) (call : Registration) (key : String) :
    lastOf (calls ++ [call]) key = if call.key = key then some call else lastOf calls key := by
  by_cases h : call.key = key <;> simp [lastOf, h]

theorem lastListing_concat (calls : List Registration) (call : Registration) (name : String) :
    lastListing (calls ++ [call]) name =
      if name ∈ call.aliasKeys then some call else lastListing calls name := by
  by_cases h : name ∈ call.aliasKeys <;> simp [lastListing, h]

theorem mem_of_lastListing {calls : List Registration} {name : String} {call : Registration}
    (h : lastListing calls name = some call) : call ∈ calls ∧ name ∈ call.aliasKeys :=
  ⟨List.mem_reverse.mp (List.mem_of_find?_eq_some h), by simpa using List.find?_some h⟩

theorem isSome_lastOf {calls : List Registration} {key : String} :
    (lastOf calls key).isSome = true ↔ ∃ call ∈ calls, call.key = key := by
  simp [lastOf]

end Registration

namespace Registry

open Registration

/-- The registry after calls, one after the other. -/
def after (r : Registry) (calls : List Registration) : Registry :=
  calls.foldl (fun r call => (call.perform r).2) r

/-- The calls that succeed, each made where those before it lead. -/
def successes (r : Registry) : List Registration → List Registration
  | [] => []
  | call :: rest =>
    match call.perform r with
    | (.ok _, next) => call :: successes next rest
    | (.error _, next) => successes next rest

/-! ## One call -/

theorem put_eq {α : Type} (key : String) (v : α) (entries : List (String × α)) :
    put key v entries = Association.put key v entries := by
  induction entries with
  | nil => rfl
  | cons entry rest ih => rw [put, Association.put, ih]

theorem addAliases_texts (language : String) (aliases : List (String × String))
    (names : List String) :
    addAliases language aliases (names.map .str) =
      (.ok (), Association.putAll (names.map fun name => (Text.lower name, language)) aliases) := by
  induction names generalizing aliases with
  | nil => rfl
  | cons name rest ih =>
    show addAliases language (put (Text.lower name) language aliases) (rest.map .str) = _
    rw [ih, put_eq]
    rfl

/-- A call without a kind is refused and changes nothing. Any other succeeds: its language has the
kind, and its further names stand for the language. -/
theorem perform_cases (r : Registry) (call : Registration) :
    call.kind = none ∧ call.perform r = (.error .notGenerator, r) ∨
      ∃ kind, call.kind = some kind ∧ call.perform r =
        (.ok (), ⟨Association.put call.key kind r.kinds,
          Association.putAll (call.aliasKeys.map fun name => (name, call.key)) r.aliases⟩) := by
  cases hk : call.kind with
  | none => exact .inl ⟨rfl, by rw [perform, hk, register]⟩
  | some kind =>
    have names : (if call.aliasValue.truthy then call.aliasValue.items? else some []) =
        some ((call.aliases.getD []).map .str) := by
      rw [aliasValue]
      cases call.aliases with
      | none => rfl
      | some names => cases names <;> rfl
    refine .inr ⟨kind, rfl, ?_⟩
    simp only [perform, hk, register, keyOf, names, addAliases_texts, put_eq, aliasKeys,
      List.map_map]
    rfl

/-! ## Many calls -/

/-- What a registry holds of calls that succeeded: for each language the kind that was given last,
and for each further name the language that it was last given to. -/
structure Records (r : Registry) (calls : List Registration) : Prop where
  kind : ∀ call ∈ calls, call.kind.isSome = true
  kinds : ∀ key, r.kinds.lookup key = (lastOf calls key).bind (·.kind)
  aliases : ∀ name, r.aliases.lookup name = (lastListing calls name).map key
  once : (r.aliases.map Prod.fst).Nodup

theorem Records.concat {r : Registry} {calls : List Registration} (h : r.Records calls)
    {call : Registration} {kind : GeneratorKind} (given : call.kind = some kind) :
    Records ⟨Association.put call.key kind r.kinds,
      Association.putAll (call.aliasKeys.map fun name => (name, call.key)) r.aliases⟩
      (calls ++ [call]) where
  kind := by
    intro other hother
    rcases List.mem_append.mp hother with earlier | last
    · exact h.kind other earlier
    · rw [List.mem_singleton.mp last, given]
      rfl
  kinds key := by
    rw [Association.lookup_put, lastOf_concat, h.kinds]
    by_cases e : call.key = key
    · rw [if_pos e.symm, if_pos e, ← given]
      rfl
    · rw [if_neg (Ne.symm e), if_neg e]
  aliases name := by
    rw [Association.lookup_putAll, ← List.map_reverse, Association.lookup_map_const,
      lastListing_concat, h.aliases]
    by_cases listed : name ∈ call.aliasKeys <;> simp [listed]
  once := Association.nodup_keys_putAll h.once _

/-- What is recorded stays so, and the calls that succeed are recorded behind it. -/
theorem records_after {r : Registry} {earlier : List Registration} (h : r.Records earlier)
    (calls : List Registration) : (r.after calls).Records (earlier ++ r.successes calls) := by
  induction calls generalizing r earlier with
  | nil =>
    rw [successes, List.append_nil]
    exact h
  | cons call rest ih =>
    rcases perform_cases r call with ⟨-, refused⟩ | ⟨kind, given, done⟩
    · rw [successes, refused]
      have next : r.after (call :: rest) = r.after rest := by
        rw [after, List.foldl_cons, refused]
        rfl
      rw [next]
      exact ih h
    · rw [successes, done]
      have next := ih (h.concat given)
      rw [List.append_assoc] at next
      rw [after, List.foldl_cons, done]
      exact next

theorem records_empty : empty.Records [] where
  kind _ h := absurd h List.not_mem_nil
  kinds _ := rfl
  aliases _ := rfl
  once := .nil

/-- **Every history is recorded.** -/
theorem recorded (calls : List Registration) :
    (empty.after calls).Records (empty.successes calls) :=
  records_after records_empty calls

/-! ## What names stand for -/

namespace Records

variable {r : Registry} {calls : List Registration}

theorem isSome_kinds (h : r.Records calls) (key : String) :
    (r.kinds.lookup key).isSome = (lastOf calls key).isSome := by
  rw [h.kinds]
  cases last : lastOf calls key with
  | none => rfl
  | some call => exact h.kind call (List.mem_reverse.mp (List.mem_of_find?_eq_some last))

/-- A language goes before a further name of the same spelling. -/
theorem resolve_eq (h : r.Records calls) (name : String) :
    r.resolve (.str name) =
      match lastOf calls (Text.lower name), lastListing calls (Text.lower name) with
      | some _, _ => .ok (Text.lower name)
      | none, some call => .ok call.key
      | none, none => .error (.unknownLanguage name r.languages) := by
  show (if (r.kinds.lookup (Text.lower name)).isSome then _ else _) = _
  rw [h.isSome_kinds, h.aliases]
  cases lastOf calls (Text.lower name) with
  | some call => rfl
  | none => cases lastListing calls (Text.lower name) <;> rfl

/-- What a name stands for is a language with a kind, even if it is found as a further name. -/
theorem exists_kind_of_resolve (h : r.Records calls) {name language : String}
    (found : r.resolve (.str name) = .ok language) :
    ∃ call kind, lastOf calls language = some call ∧ call.kind = some kind ∧
      r.kindOf language = .ok kind := by
  have known : (lastOf calls language).isSome = true := by
    rw [h.resolve_eq] at found
    split at found
    · rename_i call _ last
      cases found
      rw [last]
      rfl
    · rename_i call _ listed
      cases found
      exact isSome_lastOf.mpr ⟨call, (mem_of_lastListing listed).1, rfl⟩
    · cases found
  obtain ⟨call, last⟩ := Option.isSome_iff_exists.mp known
  obtain ⟨kind, given⟩ := Option.isSome_iff_exists.mp
    (h.kind call (List.mem_reverse.mp (List.mem_of_find?_eq_some last)))
  refine ⟨call, kind, last, given, ?_⟩
  rw [kindOf, h.kinds, last, Option.bind_some, given]

end Records

/-- **What a name stands for after every history.** A call that fails leaves the registry as it was.
Of the calls that succeed, one that registers a name makes the name a language; a name that is none
stands for the language of the last call that gave it as a further name; any other name is unknown.
What a name stands for has the kind that the last call for it registered, and a generator that
cannot be made is a fault of the registry. -/
theorem resolve_after (calls : List Registration) (name : String) :
    (∀ (r next : Registry) (call : Registration) (fault : Fault),
      call.perform r = (.error fault, next) → next = r) ∧
    (empty.after calls).resolve (.str name) =
      (match lastOf (empty.successes calls) (Text.lower name),
          lastListing (empty.successes calls) (Text.lower name) with
        | some _, _ => .ok (Text.lower name)
        | none, some call => .ok call.key
        | none, none => .error (.unknownLanguage name (empty.after calls).languages)) ∧
    (∀ language, (empty.after calls).resolve (.str name) = .ok language →
      ∃ call kind, lastOf (empty.successes calls) language = some call ∧ call.kind = some kind ∧
        (empty.after calls).kindOf language = .ok kind) ∧
    ∀ source disk fault, (empty.after calls).create (.str name) source disk = .error fault →
      fault.IsRegistry := by
  have records := recorded calls
  refine ⟨?_, records.resolve_eq name, fun _ => records.exists_kind_of_resolve, ?_⟩
  · intro r next call fault failed
    rcases perform_cases r call with ⟨-, refused⟩ | ⟨kind, -, done⟩
    · exact (Prod.mk.inj (failed.symm.trans refused)).2
    · cases failed.symm.trans done
  · intro source disk fault failed
    rw [create, Outcome.bind_eq_error] at failed
    rcases failed with unknown | ⟨language, found, failed⟩
    · rw [records.resolve_eq] at unknown
      split at unknown <;> cases unknown
      exact trivial
    · obtain ⟨call, kind, -, -, registered⟩ := records.exists_kind_of_resolve found
      rw [registered] at failed
      replace failed : (source.settings language disk >>= kind.make).mapError (.creation name) =
        .error fault := failed
      cases made : source.settings language disk >>= kind.make with
      | ok generator =>
        rw [made] at failed
        cases failed
      | error cause =>
        rw [made] at failed
        cases failed
        exact trivial

end Registry

end GosuForge
