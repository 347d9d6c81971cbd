import GosuForge.Proofs.Association
import GosuForge.Template.Engine
import GosuForge.Template.Folder

/-!
# Templates that are added to an engine

An engine takes calls one after the other: templates are added to it, looked up and rendered. What
is added goes before the templates of the folder, but a template of the folder that was loaded is
kept. All of this holds of every template language.

* `TemplateCall`, `TemplateEngine.after`: calls, and the engine after a history of them;
* `TemplateEngine.loadedBy`: the names that a call has templates loaded by;
* `TemplateEngine.lookup_added_after`, `TemplateEngine.lookup_kept_after`: what a history leaves in
  the engine;
* `TemplateEngine.render_eq`, `TemplateEngine.render_after`: rendering, by the text that stands for
  a name;
* `TemplateEngine.render_lastAdded`: what was added last under a name is rendered, unless the
  folder's template was loaded before anything was added under it;
* `TemplateEngine.shadowed_by_folder`: a history in which it was.
-/

namespace GosuForge

/-- A call on an engine. -/
inductive TemplateCall
  | add (name content : String)
  | lookUp (name : String)
  | render (name : String) (context : Value)

namespace TemplateCall

/-- What a call adds under a name. -/
def added? (name : String) : TemplateCall → Option String
  | add n content => if n = name then some content else none
  | _ => none

/-- What is added last under a name. -/
def lastAdded? (calls : List TemplateCall) (name : String) : Option String :=
  calls.reverse.findSome? (added? name)

theorem lastAdded?_cons (call : TemplateCall) (rest : List TemplateCall) (name : String) :
    lastAdded? (call :: rest) name = (lastAdded? rest name).or (call.added? name) := by
  rw [lastAdded?, List.reverse_cons, List.findSome?_append, lastAdded?]
  cases h : call.added? name <;> simp [h]

end TemplateCall

namespace TemplateLanguage

variable {text : String} {template : Template}

theorem tags_read (h : Template.parse text = .ok template) (name : String) :
    tags.read name text =
      .ok fun context => .done (renderWith template (escapingFor name) (.str name) context) := by
  simp [tags, h, bind, Except.bind]

/-- A text of tags makes what the template makes that is read from it. -/
theorem tags_rendering (h : Template.parse text = .ok template) (name : String) (context : Value) :
    tags.rendering name text context =
      .done (renderWith template (escapingFor name) (.str name) context) := by
  rw [rendering, tags_read h]

/-- A text without tags makes itself. -/
theorem tags_rendering_text (h : Template.parse text = .ok [.text text]) (name : String) :
    tags.rendering name text (.obj []) = .done (.ok text) := by
  have noSelf : ¬ Entries.has [] "self" = true := by decide
  rw [tags_rendering h, renderWith, if_neg noSelf]
  simp [Template.render, Template.renderAll, Template.renderPiece, bind, Except.bind]

end TemplateLanguage

namespace TemplateEngine

/-- The engine after a call. -/
def perform (engine : TemplateEngine) : TemplateCall → TemplateEngine
  | .add name content => engine.add name content
  | .lookUp name => (engine.has name).2
  | .render name context => (engine.render name context).2

/-- The engine after calls, one after the other. -/
def after (engine : TemplateEngine) (calls : List TemplateCall) : TemplateEngine :=
  calls.foldl perform engine

/-- The names that a rendering has templates loaded by. -/
def loaded (engine : TemplateEngine) : Rendering → List String
  | .done _ => []
  | .load name next => name :: loaded (engine.load name).2 (next (engine.load name).1)

/-- The names that a call has templates loaded by: what is looked up or rendered, and what the
templates ask for that are rendered. -/
def loadedBy (engine : TemplateEngine) : TemplateCall → List String
  | .add _ _ => []
  | .lookUp name => [name]
  | .render name context => engine.loaded (engine.language.template name context)

/-- Whether a name is loaded before anything is added under it. -/
def loadsFirst (engine : TemplateEngine) (name : String) : List TemplateCall → Bool
  | [] => false
  | call :: rest => (engine.loadedBy call).contains name ||
      ((call.added? name).isNone && loadsFirst (engine.perform call) name rest)

/-- The text that the folder has for a name, if it can be read as a template. -/
def readable? (engine : TemplateEngine) (name : String) : Option String :=
  (engine.folder name).filter fun text => (engine.language.read name text).toOption.isSome

/-! ## One template -/

theorem lookup_added_add (engine : TemplateEngine) (n content name : String) :
    (engine.add n content).added.lookup name =
      if n = name then some content else engine.added.lookup name := by
  rw [add, Association.lookup_cons]
  by_cases h : n = name
  · rw [if_pos h, if_pos h.symm]
  · rw [if_neg h, if_neg (Ne.symm h)]
    induction engine.added with
    | nil => rfl
    | cons entry rest ih =>
      obtain ⟨k, text⟩ := entry
      by_cases hk : k = n
      · rw [List.filter_cons_of_neg (by simpa using hk), ih, Association.lookup_cons,
          if_neg fun e => h (hk ▸ e.symm)]
      · rw [List.filter_cons_of_pos (by simpa using hk), Association.lookup_cons, ih,
          Association.lookup_cons]

/-- Loading keeps the folder's template if nothing else stands for the name, and changes nothing
otherwise. -/
theorem load_snd (engine : TemplateEngine) (n : String) :
    (engine.load n).2 =
      match engine.kept.lookup n, engine.added.lookup n, engine.readable? n with
      | none, none, some text => engine.keep n text
      | _, _, _ => engine := by
  rw [load, source?, readable?]
  cases engine.kept.lookup n with
  | some text => cases hr : engine.language.read n text <;> simp [hr]
  | none =>
    cases engine.added.lookup n with
    | some text => cases hr : engine.language.read n text <;> simp [hr]
    | none =>
      cases engine.folder n with
      | none => rfl
      | some text =>
        cases hr : engine.language.read n text <;> simp [hr, Except.toOption, Option.filter]

theorem added_load (engine : TemplateEngine) (n : String) :
    (engine.load n).2.added = engine.added := by
  rw [load_snd]
  split <;> rfl

theorem language_load (engine : TemplateEngine) (n : String) :
    (engine.load n).2.language = engine.language := by
  rw [load_snd]
  split <;> rfl

theorem readable?_load (engine : TemplateEngine) (n : String) :
    (engine.load n).2.readable? = engine.readable? := by
  rw [load_snd]
  split <;> rfl

theorem lookup_kept_load (engine : TemplateEngine) (n name : String) :
    (engine.load n).2.kept.lookup name = (engine.kept.lookup name).or
      (if n == name && (engine.added.lookup name).isNone then engine.readable? name else none) := by
  rw [load_snd]
  by_cases h : n = name
  · subst h
    cases hk : engine.kept.lookup n with
    | some text => simp [hk]
    | none =>
      cases ha : engine.added.lookup n with
      | some text => simp [hk]
      | none => cases hr : engine.readable? n <;> simp [hk, keep]
  · rw [beq_eq_false_iff_ne.mpr h, Bool.false_and, if_neg Bool.false_ne_true, Option.or_none]
    split
    · rw [keep, Association.lookup_cons, if_neg (Ne.symm h)]
    · rfl

/-! ## One rendering -/

theorem added_run (engine : TemplateEngine) (w : Rendering) :
    (engine.run w).2.added = engine.added := by
  induction w generalizing engine with
  | done result => rfl
  | load n next ih => exact (ih _ _).trans (added_load engine n)

theorem language_run (engine : TemplateEngine) (w : Rendering) :
    (engine.run w).2.language = engine.language := by
  induction w generalizing engine with
  | done result => rfl
  | load n next ih => exact (ih _ _).trans (language_load engine n)

theorem readable?_run (engine : TemplateEngine) (w : Rendering) :
    (engine.run w).2.readable? = engine.readable? := by
  induction w generalizing engine with
  | done result => rfl
  | load n next ih => exact (ih _ _).trans (readable?_load engine n)

/-- A rendering keeps the folder's templates that it has loaded, those excepted that something was
added in place of. -/
theorem lookup_kept_run (engine : TemplateEngine) (w : Rendering) (name : String) :
    (engine.run w).2.kept.lookup name = (engine.kept.lookup name).or
      (if (engine.loaded w).contains name && (engine.added.lookup name).isNone then
        engine.readable? name
      else none) := by
  induction w generalizing engine with
  | done result => exact Option.or_none.symm
  | load n next ih =>
    have further := ih (engine.load n).1 (engine.load n).2
    rw [lookup_kept_load, added_load, readable?_load, Option.or_assoc] at further
    refine further.trans (congrArg _ ?_)
    rw [loaded, List.contains_cons, BEq.comm (a := name)]
    cases n == name <;> cases (engine.added.lookup name).isNone <;>
      cases engine.readable? name <;> simp

theorem complete_snd (engine : TemplateEngine) (w : Rendering) :
    (engine.complete w).2 = (engine.run w).2 := by
  rw [complete]
  rcases engine.run w with ⟨fault | text, engine'⟩ <;> rfl

/-! ## One call -/

/-- A call that adds nothing leaves the engine that some rendering leaves. -/
theorem perform_cases (engine : TemplateEngine) (call : TemplateCall) :
    (∃ n content, call = .add n content) ∨
      ∃ w, engine.perform call = (engine.run w).2 ∧ engine.loadedBy call = engine.loaded w ∧
        ∀ name, call.added? name = none := by
  cases call with
  | add n content => exact .inl ⟨n, content, rfl⟩
  | lookUp n => exact .inr ⟨.load n fun _ => .done (.ok ""), rfl, rfl, fun _ => rfl⟩
  | render n context => exact .inr ⟨_, complete_snd engine _, rfl, fun _ => rfl⟩

theorem language_perform (engine : TemplateEngine) (call : TemplateCall) :
    (engine.perform call).language = engine.language := by
  rcases engine.perform_cases call with ⟨n, content, rfl⟩ | ⟨w, performed, -⟩
  · rfl
  · rw [performed, language_run]

theorem readable?_perform (engine : TemplateEngine) (call : TemplateCall) :
    (engine.perform call).readable? = engine.readable? := by
  rcases engine.perform_cases call with ⟨n, content, rfl⟩ | ⟨w, performed, -⟩
  · rfl
  · rw [performed, readable?_run]

theorem lookup_added_perform (engine : TemplateEngine) (call : TemplateCall) (name : String) :
    (engine.perform call).added.lookup name =
      (call.added? name).or (engine.added.lookup name) := by
  rcases engine.perform_cases call with ⟨n, content, rfl⟩ | ⟨w, performed, -, none⟩
  · rw [perform, lookup_added_add, TemplateCall.added?]
    split <;> rfl
  · rw [performed, added_run, none name, Option.none_or]

theorem lookup_kept_perform (engine : TemplateEngine) (call : TemplateCall) (name : String) :
    (engine.perform call).kept.lookup name = (engine.kept.lookup name).or
      (if (engine.loadedBy call).contains name && (engine.added.lookup name).isNone then
        engine.readable? name
      else none) := by
  rcases engine.perform_cases call with ⟨n, content, rfl⟩ | ⟨w, performed, loads, -⟩
  · exact Option.or_none.symm
  · rw [performed, loads, lookup_kept_run]

theorem added?_of_loadedBy {engine : TemplateEngine} {call : TemplateCall} {name : String}
    (h : (engine.loadedBy call).contains name = true) : call.added? name = none := by
  rcases engine.perform_cases call with ⟨n, content, rfl⟩ | ⟨-, -, -, none⟩
  · cases h
  · exact none name

/-! ## Many calls -/

theorem language_after (engine : TemplateEngine) (calls : List TemplateCall) :
    (engine.after calls).language = engine.language := by
  induction calls generalizing engine with
  | nil => rfl
  | cons call rest ih => exact (ih (engine.perform call)).trans (language_perform engine call)

/-- Under a name stands what was added last. -/
theorem lookup_added_after (engine : TemplateEngine) (calls : List TemplateCall) (name : String) :
    (engine.after calls).added.lookup name =
      (TemplateCall.lastAdded? calls name).or (engine.added.lookup name) := by
  induction calls generalizing engine with
  | nil => rfl
  | cons call rest ih =>
    rw [TemplateCall.lastAdded?_cons, Option.or_assoc, ← lookup_added_perform]
    exact ih (engine.perform call)

/-- A template of the folder is kept if its name is loaded before anything is added under it. -/
theorem lookup_kept_after (engine : TemplateEngine) (calls : List TemplateCall) (name : String) :
    (engine.after calls).kept.lookup name = (engine.kept.lookup name).or
      (if engine.loadsFirst name calls && (engine.added.lookup name).isNone then
        engine.readable? name
      else none) := by
  induction calls generalizing engine with
  | nil => exact Option.or_none.symm
  | cons call rest ih =>
    have next := ih (engine.perform call)
    rw [lookup_kept_perform, lookup_added_perform, readable?_perform, Option.or_assoc] at next
    refine next.trans (congrArg _ ?_)
    rw [loadsFirst]
    -- Only a call that loads the name before anything is added under it matters.
    cases loads : (engine.loadedBy call).contains name with
    | true =>
      have none := added?_of_loadedBy loads
      cases engine.added.lookup name with
      | some text => simp [none]
      | none => cases engine.readable? name <;> simp
    | false =>
      rw [Bool.false_and, if_neg Bool.false_ne_true, Option.none_or, Bool.false_or]
      cases call.added? name with
      | some text =>
        rw [Option.isNone_some, Bool.false_and, Bool.false_and, Option.some_or, Option.isNone_some,
          Bool.and_false]
      | none => rw [Option.isNone_none, Bool.true_and, Option.none_or]

/-! ## What is rendered -/

/-- The folder's template of a name, if it is loaded before anything is added under the name. -/
def loadedFirst? (engine : TemplateEngine) (calls : List TemplateCall) (name : String) :
    Option String :=
  if engine.loadsFirst name calls then engine.readable? name else none

/-- A template that was kept or added is rendered from its text. -/
theorem render_of_source? {engine : TemplateEngine} {name text : String}
    (h : engine.source? name = some (text, false)) (context : Value) :
    engine.render name context = engine.complete (engine.language.rendering name text context) := by
  have loaded : engine.load name =
      ((engine.language.read name text).map fun _ => some text, engine) := by
    rw [load, h]
    dsimp only
    cases engine.language.read name text <;> rfl
  rw [render, complete, complete, TemplateLanguage.template, run, loaded,
    TemplateLanguage.rendering]
  cases hr : engine.language.read name text with
  | error fault => rfl
  | ok write => simp [Except.map, TemplateLanguage.rendering, hr]

/-- Nothing else is loaded where a template makes its text at once. -/
theorem render_of_done {engine : TemplateEngine} {language : TemplateLanguage}
    {name text result : String} {context : Value}
    (h : engine.source? name = some (text, false)) (same : engine.language = language)
    (made : language.rendering name text context = .done (.ok result)) :
    engine.render name context = (.ok result, engine) := by
  rw [render_of_source? h, same, made]
  rfl

/-- What stands for a name that something was added under: the folder's template if it was loaded in
time, else what was added last. -/
theorem source?_after (language : TemplateLanguage) (folder : String → Option String)
    {calls : List TemplateCall} {name content : String}
    (added : TemplateCall.lastAdded? calls name = some content) :
    ((reading language folder).after calls).source? name =
      some (((reading language folder).loadedFirst? calls name).getD content, false) := by
  have kept : ((reading language folder).after calls).kept.lookup name =
      (reading language folder).loadedFirst? calls name := by
    have empty : (reading language folder).added.lookup name = none := rfl
    refine (lookup_kept_after _ calls name).trans ?_
    rw [empty, Option.isNone_none, Bool.and_true]
    exact Option.none_or
  have last : ((reading language folder).after calls).added.lookup name = some content :=
    (lookup_added_after _ calls name).trans (by rw [added, Option.some_or])
  rw [source?, kept, last]
  cases (reading language folder).loadedFirst? calls name <;> rfl

/-- **What was added last is rendered.** Whatever the template language is, after every history of
calls in which something was added under a name, the template of that name renders as what was added
last, whatever the folder has. There is one exception: if the folder's template was loaded before the
first addition, it stays, and no addition is ever seen. -/
theorem render_lastAdded (language : TemplateLanguage) (folder : String → Option String)
    {calls : List TemplateCall} {name content : String}
    (added : TemplateCall.lastAdded? calls name = some content) (context : Value) :
    ((reading language folder).after calls).render name context =
      ((reading language folder).after calls).complete (language.rendering name
        (((reading language folder).loadedFirst? calls name).getD content) context) := by
  rw [render_of_source? (source?_after language folder added), language_after]
  rfl

/-- A folder on a disk, with one template in it. -/
def noteFolder : String → Option String :=
  TemplateFolder.ofDirectory
    { Disk.empty with nodes := Disk.empty.nodes ++
        [(["work", "t"], .directory), (["work", "t", "note"], .file "shipped")] }
    (Path.ofString "t")

/-- A template is added before it is rendered, and once more after that. -/
def revisedCalls : List TemplateCall :=
  [.add "note" "first", .lookUp "note", .render "note" (.obj []), .add "note" "second"]

theorem render_lastAdded_revised :
    TemplateCall.lastAdded? revisedCalls "note" = some "second" ∧
      (((reading .tags noteFolder).after revisedCalls).render "note" (.obj [])).1 = .ok "second" := by
  have added : TemplateCall.lastAdded? revisedCalls "note" = some "second" := by decide
  have unloaded : (reading .tags noteFolder).loadedFirst? revisedCalls "note" = none := by rfl
  have rendered := render_lastAdded .tags noteFolder added (.obj [])
  rw [unloaded, Option.getD_none, TemplateLanguage.tags_rendering_text (by rfl)] at rendered
  exact ⟨added, congrArg Prod.fst rendered⟩

/-- A template is rendered before one of its name is added. -/
def belatedCalls : List TemplateCall := [.render "note" (.obj []), .add "note" "second"]

/-- A template of the folder that was rendered stays, although another one is added. -/
theorem shadowed_by_folder :
    TemplateCall.lastAdded? belatedCalls "note" = some "second" ∧
      ((reading .tags noteFolder).complete
        (TemplateLanguage.tags.rendering "note" "second" (.obj []))).1 = .ok "second" ∧
      (((reading .tags noteFolder).after belatedCalls).render "note" (.obj [])).1 = .ok "shipped" := by
  have added : TemplateCall.lastAdded? belatedCalls "note" = some "second" := by decide
  have source := source?_after .tags noteFolder added
  have loaded : (reading .tags noteFolder).loadedFirst? belatedCalls "note" = some "shipped" := by
    decide +kernel
  rw [loaded, Option.getD_some] at source
  refine ⟨added, ?_, ?_⟩
  · rw [TemplateLanguage.tags_rendering_text (by rfl)]
    rfl
  · have plain : Template.parse "shipped" = .ok [.text "shipped"] := by rfl
    have shipped := TemplateLanguage.tags_rendering_text plain "note"
    exact congrArg Prod.fst (render_of_done source (language_after ..) shipped)

end TemplateEngine

end GosuForge
