import GosuForge.Console.Command
import GosuForge.Proofs.Entries
import GosuForge.Proofs.Outcome

/-!
# Command lines that are read

A switch that is written out in full is read with the text after it, unless that text looks like a
switch itself.

* `Command.IsPlain`: texts that are read as values;
* `Command.Written`: a switch of `generate` as it is written out, with its value;
* `Grammar.consume_written`: how written switches are read, one after the other;
* `Command.ofArguments_written`: what is read of a model file and written switches.
-/

namespace GosuForge

open Outcome

namespace Grammar

/-! ## Texts and their looks -/

/-- The use of a switch that a text may be short for under one of its spellings. -/
def useFor? (s : String) (spelling : String × Switch) : Option SwitchUse :=
  match s.toList with
  | '-' :: '-' :: _ =>
    if Text.startsWith (splitEquals s).1 spelling.1 then
      some ⟨spelling.2, spelling.1, (splitEquals s).2⟩
    else none
  | '-' :: c :: rest =>
    if spelling.1 = String.ofList ['-', c] then some ⟨spelling.2, spelling.1, some rest⟩
    else if Text.startsWith s spelling.1 then some ⟨spelling.2, spelling.1, none⟩
    else none
  | _ => none

theorem candidates_eq (g : Grammar) (s : String) :
    g.candidates s = g.spellings.filterMap (useFor? s) := by
  have long (spellings : List (String × Switch)) (start : String) (attached : Option (List Char)) :
      ((spellings.filter fun spelling => Text.startsWith start spelling.1).map fun spelling =>
          SwitchUse.mk spelling.2 spelling.1 attached) =
        spellings.filterMap fun spelling =>
          if Text.startsWith start spelling.1 then some ⟨spelling.2, spelling.1, attached⟩
          else none := by
    rw [← List.filterMap_eq_map, List.filterMap_filter]
    rfl
  unfold candidates useFor?
  generalize s.toList = cs
  split
  · exact long _ _ _
  · simp only
  · simp

/-- A text is read as it stands if it does not look like a switch. -/
theorem classify_eq_plain {g : Grammar} {s : String} (h : g.classify s = .ok (.plain s)) :
    (!Text.startsWith "-" s || s = "-") = true ∨ g.candidates s = [] := by
  unfold classify at h
  split at h
  · exact .inl ‹_›
  · split at h
    · cases h
    · split at h
      · cases h
      · rename_i none
        exact .inr none
      · cases h

theorem source_of_classify {g : Grammar} {s : String} {a : Argument} (h : g.classify s = .ok a) :
    a.source = s := by
  unfold classify at h
  split at h
  · cases h
    rfl
  · split at h
    · cases h
      rfl
    · split at h
      · cases h
        rfl
      · split at h <;> cases h <;> rfl
      · cases h

theorem exists_classify {g : Grammar} {s : String} (h : (g.candidates s).length ≤ 1) :
    ∃ a, g.classify s = .ok a := by
  unfold classify
  split
  · exact ⟨_, rfl⟩
  · split
    · exact ⟨_, rfl⟩
    · split
      · exact ⟨_, rfl⟩
      · split <;> exact ⟨_, rfl⟩
      · rename_i other none
        rcases hc : g.candidates s with _ | ⟨use, _ | ⟨_, _⟩⟩
        · exact absurd hc none
        · exact absurd hc (other use)
        · rw [hc] at h
          simp at h

theorem classifyAll_cons {g : Grammar} {s : String} {rest : List String} (h : s ≠ "--") :
    g.classifyAll (s :: rest) =
      g.classify s >>= fun a => g.classifyAll rest >>= fun others => .ok (a :: others) := by
  rw [classifyAll]
  exact fun e => h e

/-- Arguments that are readable one by one are read with their sources. -/
theorem classifyAll_sources {g : Grammar} {args : List String}
    (h : ∀ s ∈ args, ∃ a, g.classify s = .ok a) :
    ∃ found, g.classifyAll args = .ok found ∧ found.map Argument.source = args := by
  induction args with
  | nil => exact ⟨[], rfl, rfl⟩
  | cons s rest ih =>
    obtain ⟨⟨a, ha⟩, hrest⟩ := List.forall_mem_cons.mp h
    obtain ⟨others, hothers, sources⟩ := ih hrest
    by_cases dashes : s = "--"
    · subst dashes
      exact ⟨_, rfl, by simp [Argument.source, Function.comp_def]⟩
    · refine ⟨a :: others, ?_, ?_⟩
      · rw [classifyAll_cons dashes, ha, hothers]
        rfl
      · rw [List.map_cons, source_of_classify ha, sources]

end Grammar

namespace Command

/-- A text that `generate` reads as a value where one is expected. -/
def IsPlain (s : String) : Prop := generateGrammar.classify s = .ok (.plain s)

theorem isPlain_of_startsWith {s : String} (h : Text.startsWith "-" s = false) : IsPlain s := by
  rw [IsPlain, Grammar.classify, h]
  rfl

theorem generateGrammar_dashes : generateGrammar.classify "--" = .error .usage := rfl

theorem IsPlain.ne_dashes {s : String} (h : IsPlain s) : s ≠ "--" := by
  rintro rfl
  cases generateGrammar_dashes.symm.trans h

/-- What `generate` reads as a value is not short for several switches of the program: the two share
those that ask for help. -/
theorem IsPlain.classify_main {s : String} (h : IsPlain s) :
    ∃ a, mainGrammar.classify s = .ok a := by
  rcases Grammar.classify_eq_plain h with plain | unmatched
  · exact ⟨.plain s, by rw [Grammar.classify, if_pos plain]⟩
  · have shared (name : String) (hn : (name, help) ∈ generateGrammar.spellings) :
        Grammar.useFor? s (name, help) = none := by
      rw [Grammar.candidates_eq, List.filterMap_eq_nil_iff] at unmatched
      exact unmatched _ hn
    have spellings : mainGrammar.spellings =
        [("-h", help), ("--help", help), ("--version", ⟨"version", ["--version"], .stop⟩)] := rfl
    apply Grammar.exists_classify
    rw [Grammar.candidates_eq, spellings, List.filterMap_cons_none (shared "-h" (by decide)),
      List.filterMap_cons_none (shared "--help" (by decide))]
    exact List.length_filterMap_le _ _

theorem IsPlain.of_some {s : String} (h : IsPlain s) : ∀ t, some s = some t → IsPlain t := by
  rintro _ ⟨⟩
  exact h

/-- What is read as a value is the value of a switch for a text. -/
theorem IsPlain.apply_text {s : String} (h : IsPlain s) (key : String) (names : List String)
    (p : Parsed) :
    Grammar.apply p ⟨key, names, .text⟩ (some s) =
      .ok { p with given := Entries.put key (.str s) p.given } := by
  simp [Grammar.apply, Grammar.valueOf, h.ne_dashes, Except.map]

theorem IsPlain.apply_number {s : String} (h : IsPlain s) {n : Int} (reads : Text.readInt? s = some n)
    (key : String) (names : List String) (p : Parsed) :
    Grammar.apply p ⟨key, names, .number⟩ (some s) =
      .ok { p with given := Entries.put key (.int n) p.given } := by
  simp [Grammar.apply, Grammar.valueOf, h.ne_dashes, reads, Except.map]

/-! ## Switches that are written out -/

/-- A switch of `generate` that is written out in full, with the text after it and the value of it. -/
structure Written where
  name : String
  switch : Switch
  text : Option String
  value : Value
  known : generateGrammar.classify name = .ok (.switch name (some ⟨switch, name, none⟩))
  /-- The program passes the name on. -/
  passed : ∃ a, mainGrammar.classify name = .ok a
  fits : switch.takesValue = text.isSome
  plain : ∀ s, text = some s → IsPlain s
  read : ∀ p, Grammar.apply p switch text =
    .ok { p with given := Entries.put switch.key value p.given }

namespace Written

def texts (w : Written) : List String := w.name :: w.text.toList

def arguments (w : Written) : List Argument :=
  .switch w.name (some ⟨w.switch, w.name, none⟩) :: w.text.toList.map .plain

/-- What is noted of the switch. -/
def note (given : Entries) (w : Written) : Entries := given.put w.switch.key w.value

def root (name : String) (plain : IsPlain name) : Written where
  name := "--root"
  switch := ⟨"root", ["--root"], .text⟩
  text := some name
  value := .str name
  known := rfl
  passed := ⟨_, rfl⟩
  fits := rfl
  plain := plain.of_some
  read := plain.apply_text _ _

def output (folder : String) (plain : IsPlain folder) : Written where
  name := "-o"
  switch := ⟨"output", ["--output", "-o"], .text⟩
  text := some folder
  value := .str folder
  known := rfl
  passed := ⟨_, rfl⟩
  fits := rfl
  plain := plain.of_some
  read := plain.apply_text _ _

end Written

end Command

namespace Grammar

open Command

theorem classifyAll_written (ws : List Written) :
    generateGrammar.classifyAll (ws.flatMap Written.texts) = .ok (ws.flatMap Written.arguments) := by
  induction ws with
  | nil => rfl
  | cons w ws ih =>
    have name : w.name ≠ "--" := by
      intro e
      have known := w.known
      rw [e, generateGrammar_dashes] at known
      cases known
    rw [List.flatMap_cons, Written.texts, List.cons_append, classifyAll_cons name, w.known]
    cases text : w.text with
    | none =>
      show generateGrammar.classifyAll (ws.flatMap Written.texts) >>= _ = _
      rw [ih]
      simp [Written.arguments, text]
      rfl
    | some s =>
      have plain := w.plain s text
      show generateGrammar.classifyAll (s :: ws.flatMap Written.texts) >>= _ = _
      rw [classifyAll_cons plain.ne_dashes, plain, ih]
      simp [Written.arguments, text]
      rfl

/-- One written switch is read in one step, with its text. -/
theorem consume_written_cons (p : Parsed) (fuel : Nat) (w : Written) (rest : List Argument) :
    generateGrammar.consume p (fuel + 1) (w.arguments ++ rest) =
      generateGrammar.consume { p with given := w.note p.given } fuel rest := by
  have fits := w.fits
  have applied : applyAll p [(w.switch, w.text)] = .ok { p with given := w.note p.given } := by
    rw [applyAll, w.read p]
    rfl
  cases text : w.text with
  | none =>
    rw [text] at fits applied
    have expanded : generateGrammar.expand rest ⟨w.switch, w.name, none⟩ =
        .ok ⟨[(w.switch, none)], false⟩ := by
      simp [expand, expandAlone, fits]
    simp only [Written.arguments, text, Option.toList_none, List.map_nil, List.cons_append,
      List.nil_append, consume, expanded]
    show applyAll p [(w.switch, none)] >>= (fun p => generateGrammar.consume p fuel rest) = _
    rw [applied]
    rfl
  | some s =>
    rw [text] at fits applied
    have expanded : generateGrammar.expand (.plain s :: rest) ⟨w.switch, w.name, none⟩ =
        .ok ⟨[(w.switch, some s)], true⟩ := by
      simp [expand, expandAlone, fits]
    simp only [Written.arguments, text, Option.toList_some, List.map_cons, List.map_nil,
      List.cons_append, List.nil_append, consume, expanded]
    show applyAll p [(w.switch, some s)] >>= (fun p => generateGrammar.consume p fuel rest) = _
    rw [applied]
    rfl

/-- Written switches are noted one after the other. -/
theorem consume_written (p : Parsed) (ws : List Written) {fuel : Nat} (h : ws.length < fuel) :
    generateGrammar.consume p fuel (ws.flatMap Written.arguments) =
      .ok { p with given := ws.foldl Written.note p.given } := by
  induction ws generalizing p fuel with
  | nil =>
    obtain ⟨fuel, rfl⟩ : ∃ k, fuel = k + 1 := ⟨fuel - 1, by omega⟩
    rfl
  | cons w ws ih =>
    obtain ⟨fuel, rfl⟩ : ∃ k, fuel = k + 1 := ⟨fuel - 1, by omega⟩
    rw [List.flatMap_cons, consume_written_cons, ih _ (by simpa using h)]
    rfl

theorem length_le_arguments (ws : List Written) :
    ws.length ≤ (ws.flatMap Written.arguments).length := by
  induction ws with
  | nil => exact Nat.zero_le _
  | cons w ws ih =>
    simp only [List.flatMap_cons, List.length_append, List.length_cons, Written.arguments]
    omega

/-- The first operands are taken where they stand. -/
theorem consume_operands {g : Grammar} {s : String} {rest : List Argument} {n : Nat}
    {texts : List String} (h : takeOperands g.operands (.plain s :: rest) = some (n, texts))
    (fuel : Nat) :
    g.consume .empty (fuel + 1) (.plain s :: rest) =
      g.consume ⟨[], some texts, []⟩ fuel ((Argument.plain s :: rest).drop n) := by
  simp [consume, Parsed.empty, h]

/-- A file and written switches after it are read as such. -/
theorem parse_written {file : String} (plain : IsPlain file) (ws : List Written) :
    generateGrammar.parse (file :: ws.flatMap Written.texts) =
      .ok ⟨ws.foldl Written.note [], some [file], []⟩ := by
  have classified : generateGrammar.classifyAll (file :: ws.flatMap Written.texts) =
      .ok (.plain file :: ws.flatMap Written.arguments) := by
    rw [classifyAll_cons plain.ne_dashes, plain, classifyAll_written]
    rfl
  -- No switch looks like two dashes, so the file alone is taken as an operand.
  have taken : takeOperands .one (.plain file :: ws.flatMap Written.arguments) =
      some (1, [file]) := by
    cases ws <;> rfl
  have enough : ws.length < 2 * (ws.flatMap Written.arguments).length + 2 := by
    have := length_le_arguments ws
    omega
  have consumed : generateGrammar.consume .empty (2 * (ws.flatMap Written.arguments).length + 3)
      (.plain file :: ws.flatMap Written.arguments) =
        .ok ⟨ws.foldl Written.note [], some [file], []⟩ := by
    rw [consume_operands taken]
    exact consume_written ⟨[], some [file], []⟩ ws enough
  rw [parse, classified]
  show generateGrammar.consume .empty (2 * (ws.flatMap Written.arguments).length + 3)
    (.plain file :: ws.flatMap Written.arguments) >>= _ = _
  rw [consumed]
  rfl

end Grammar

namespace Command

/-- The arguments for `generate` with a model file and written switches. -/
def argumentsOf (file : String) (ws : List Written) : List String :=
  "generate" :: file :: ws.flatMap Written.texts

/-- **Written switches are read as what they stand for.** -/
theorem ofArguments_written {file : String} (plain : IsPlain file) (ws : List Written) :
    ofArguments (argumentsOf file ws) =
      .ok (.generate (generateOptions ⟨ws.foldl Written.note [], some [file], []⟩)) := by
  have readable : ∀ s ∈ argumentsOf file ws, ∃ a, mainGrammar.classify s = .ok a := by
    intro s hs
    rcases List.mem_cons.mp hs with rfl | hs
    · exact ⟨_, rfl⟩
    · rcases List.mem_cons.mp hs with rfl | hs
      · exact plain.classify_main
      · obtain ⟨w, -, hs⟩ := List.mem_flatMap.mp hs
        rcases List.mem_cons.mp hs with rfl | hs
        · exact w.passed
        · exact (w.plain s (Option.mem_toList.mp hs)).classify_main
  obtain ⟨found, classified, sources⟩ := Grammar.classifyAll_sources readable
  obtain ⟨rest, rfl⟩ : ∃ rest, found = .plain "generate" :: rest := by
    have opened := classified
    rw [argumentsOf, Grammar.classifyAll_cons (by decide)] at opened
    obtain ⟨a, ha, opened⟩ := bind_eq_ok.mp opened
    obtain ⟨rest, -, e⟩ := bind_eq_ok.mp opened
    cases ha
    cases e
    exact ⟨rest, rfl⟩
  have parsed : mainGrammar.parse (argumentsOf file ws) =
      .ok ⟨[], some (argumentsOf file ws), []⟩ := by
    have taken : Grammar.takeOperands .command (.plain "generate" :: rest) =
        some (rest.length + 1, argumentsOf file ws) := by
      rw [← sources]
      rfl
    rw [Grammar.parse, classified]
    show mainGrammar.consume .empty (2 * rest.length + 3) (.plain "generate" :: rest) >>= _ = _
    rw [Grammar.consume_operands taken, List.drop_succ_cons, List.drop_length]
    rfl
  rw [ofArguments, parsed]
  show ofOperands (argumentsOf file ws) >>= _ = _
  rw [argumentsOf, ofOperands, Grammar.parse_written plain ws]
  rfl

end Command

end GosuForge
