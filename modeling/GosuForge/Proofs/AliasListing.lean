import GosuForge.Proofs.LowerCase
import GosuForge.Proofs.Registration

/-!
# Further names as they are listed and as they are resolved

A registry lists the further names of a language from one table, and resolves a name with two. They
part where a further name is a language itself.

* `Registry.Records.mem_aliasesOf`: the names that are listed for a language;
* `Registry.IsAliasOf`: the names that lead to a language and are not the language;
* `Registry.listed_agrees_iff`: when a listed name is one that leads there;
* `Registry.listed_language`: a listed name that leads elsewhere.
-/

namespace GosuForge.Registry

open Registration

theorem mem_sorted {name : String} {names : List String} : name ∈ sorted names ↔ name ∈ names :=
  (List.mergeSort_perm names _).mem_iff

/-- Whether a name leads to a language without being it: it is in lower case, some call gave it as a
further name, and it is resolved to the language. -/
def IsAliasOf (r : Registry) (calls : List Registration) (name language : String) : Prop :=
  Text.lower name = name ∧ name ≠ language ∧ (∃ call ∈ calls, name ∈ call.aliasKeys) ∧
    r.resolve (.str name) = .ok language

namespace Records

variable {r : Registry} {calls : List Registration}

theorem mem_languages (h : r.Records calls) {language : String} :
    language ∈ r.languages ↔ (lastOf calls language).isSome = true := by
  rw [languages, mem_sorted, ← Association.isSome_lookup, h.isSome_kinds]

theorem lower_of_mem_languages (h : r.Records calls) {language : String}
    (registered : language ∈ r.languages) : Text.lower language = language := by
  obtain ⟨call, -, rfl⟩ := isSome_lastOf.mp (h.mem_languages.mp registered)
  exact Text.lower_lower call.language

/-- A name is listed for the language that it was last given to. -/
theorem mem_aliasesOf (h : r.Records calls) {language : String}
    (registered : language ∈ r.languages) :
    ∃ listed, r.aliasesOf (.str language) = .ok listed ∧
      ∀ name, name ∈ listed ↔ (lastListing calls name).map key = some language := by
  refine ⟨_, rfl, fun name => ?_⟩
  rw [mem_sorted, List.mem_map, ← h.aliases, h.lower_of_mem_languages registered]
  constructor
  · rintro ⟨⟨given, target⟩, entry, rfl⟩
    obtain ⟨entry, same⟩ := List.mem_filter.mp entry
    exact Association.lookup_of_mem h.once (eq_of_beq same ▸ entry)
  · intro found
    have entry := Association.mem_of_lookup found
    exact ⟨(name, language), List.mem_filter.mpr ⟨entry, beq_self_eq_true _⟩, rfl⟩

/-- A name that was last given to a language leads there, unless it is a language itself. -/
theorem isAliasOf_iff (h : r.Records calls) {name language : String}
    (registered : language ∈ r.languages) :
    r.IsAliasOf calls name language ↔
      name ∉ r.languages ∧ (lastListing calls name).map key = some language := by
  constructor
  · rintro ⟨low, other, -, found⟩
    rw [h.resolve_eq, low] at found
    cases own : lastOf calls name with
    | some call =>
      rw [own] at found
      cases found
      exact absurd rfl other
    | none =>
      rw [own] at found
      refine ⟨fun known => ?_, ?_⟩
      · rw [h.mem_languages, own] at known
        cases known
      · cases listed : lastListing calls name with
        | some call =>
          rw [listed] at found
          cases found
          rfl
        | none =>
          rw [listed] at found
          cases found
  · rintro ⟨unknown, last⟩
    obtain ⟨call, listed, rfl⟩ := Option.map_eq_some_iff.mp last
    obtain ⟨given, mem⟩ := mem_of_lastListing listed
    have low : Text.lower name = name := by
      obtain ⟨text, -, rfl⟩ := List.mem_map.mp mem
      exact Text.lower_lower text
    refine ⟨low, ?_, ⟨call, given, mem⟩, ?_⟩
    · rintro rfl
      exact unknown registered
    · have own : lastOf calls name = none := by
        simpa [h.mem_languages] using unknown
      rw [h.resolve_eq, low, own, listed]

end Records

/-- **Listed names and names that lead to a language.** After every history, and for every language
that is registered, a name is listed for the language just if it leads there without being the
language, except for a name that is itself a registered language and was last given as a further
name to this one: such a name is listed, and stands for its own language. -/
theorem listed_agrees_iff (calls : List Registration) {language : String}
    (registered : language ∈ (empty.after calls).languages) (name : String) :
    ∃ listed, (empty.after calls).aliasesOf (.str language) = .ok listed ∧
      ((name ∈ listed ↔ (empty.after calls).IsAliasOf (empty.successes calls) name language) ↔
        ¬ (name ∈ (empty.after calls).languages ∧
          (lastListing (empty.successes calls) name).map key = some language)) := by
  have records := recorded calls
  obtain ⟨listed, answered, mem⟩ := records.mem_aliasesOf registered
  refine ⟨listed, answered, ?_⟩
  rw [mem, records.isAliasOf_iff registered]
  tauto

/-- A further name that is then given to another language; the last call registers nothing. -/
def stolenCalls : List Registration :=
  [⟨"Gosu", some .gosu, some ["GS", "go"]⟩,
    ⟨"Other", some ⟨"OtherGenerator", some "other"⟩, some ["gs"]⟩, ⟨"text", none, some ["gs"]⟩]

theorem listed_agrees_stolen :
    "other" ∈ (empty.after stolenCalls).languages ∧ "gs" ∉ (empty.after stolenCalls).languages ∧
      ∃ listed, (empty.after stolenCalls).aliasesOf (.str "other") = .ok listed ∧ "gs" ∈ listed ∧
        (empty.after stolenCalls).IsAliasOf (empty.successes stolenCalls) "gs" "other" := by
  have records := recorded stolenCalls
  have registered : "other" ∈ (empty.after stolenCalls).languages :=
    records.mem_languages.mpr (by decide +kernel)
  have unknown : "gs" ∉ (empty.after stolenCalls).languages := by
    rw [records.mem_languages]
    decide +kernel
  have leads : (empty.after stolenCalls).IsAliasOf (empty.successes stolenCalls) "gs" "other" :=
    (records.isAliasOf_iff registered).mpr ⟨unknown, by decide +kernel⟩
  obtain ⟨listed, answered, same⟩ := listed_agrees_iff stolenCalls registered "gs"
  have agree := same.mpr fun own => unknown own.1
  exact ⟨registered, unknown, listed, answered, agree.mpr leads, leads⟩

/-- A further name that is then registered as a language. -/
def promotedCalls : List Registration :=
  [⟨"gosu", some .gosu, some ["gs"]⟩, ⟨"gs", some ⟨"OtherGenerator", some "other"⟩, none⟩]

/-- The name is still listed for the first language, but leads to itself. -/
theorem listed_language :
    "gosu" ∈ (empty.after promotedCalls).languages ∧
      (empty.after promotedCalls).aliasesOf (.str "gosu") = .ok ["gs"] ∧
      (empty.after promotedCalls).resolve (.str "gs") = .ok "gs" := by
  have records := recorded promotedCalls
  have registered : "gosu" ∈ (empty.after promotedCalls).languages :=
    records.mem_languages.mpr (by decide +kernel)
  refine ⟨registered, ?_, ?_⟩
  · have unsorted :
        (empty.after promotedCalls).aliasesOf (.str "gosu") = .ok (sorted ["gs"]) := by rfl
    rw [unsorted, sorted, List.mergeSort_singleton]
  · rfl

end GosuForge.Registry
