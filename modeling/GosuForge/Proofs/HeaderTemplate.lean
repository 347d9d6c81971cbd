import GosuForge.Proofs.AddedTemplates
import GosuForge.Proofs.Outcome

/-!
# Files with and without the template of their header

The header of a source file comes from a template, and a plain rule writes the same lines where there is
no template. Both make the same file, whatever stands in it.

* `SourceFile.headerLines`, `SourceFile.plainFile_eq`: the lines before a declaration;
* `Template.renderPiece_repeated`: what is repeated for the items of a list;
* `SourceFile.render_header`: what the header makes of a package name, imports and a declaration;
* `SourceFile.shipped_header_plain`: the template that comes with the library, next to the plain rule.
-/

namespace GosuForge

/-- Lines with a last text behind them. -/
theorem Text.joinLines_concat (lines : List String) (last : String) :
    joinLines (lines ++ [last]) = String.join (lines.map (· ++ "\n")) ++ last := by
  induction lines with
  | nil => simp [joinLines, join]
  | cons line rest ih =>
    obtain ⟨next, others, e⟩ : ∃ next others, rest ++ [last] = next :: others :=
      List.exists_cons_of_ne_nil (by simp)
    rw [joinLines] at ih ⊢
    rw [List.cons_append, e, join, ← e, ih, List.map_cons, String.join_cons, String.append_assoc,
      String.append_assoc, String.append_assoc]

namespace Template

variable {e : Escaping} {context : Entries}

theorem renderAll_cons {piece : TemplatePiece} {rest : List TemplatePiece} {first others : String}
    (h : renderPiece e context piece = .ok first) (h' : renderAll e context rest = .ok others) :
    renderAll e context (piece :: rest) = .ok (first ++ others) := by
  rw [renderAll, h, h']
  rfl

/-- A part that is repeated for the items of a list, and gives a text for every item. -/
theorem renderPiece_repeated {item name : String} {body : List TemplatePiece} {items : List Value}
    {text : Value → String} (h : context.lookup name = some (.arr items))
    (each : ∀ v, renderAll e ((item, v) :: context) body = .ok (text v)) :
    renderPiece e context (.repeated item name body) = .ok (String.join (items.map text)) := by
  have texts : items.mapM (fun v => renderAll e ((item, v) :: context) body) =
      .ok (items.map text) := by
    rw [Outcome.mapM_eq_ok, List.forall₂_map_right_iff]
    exact List.forall₂_same.mpr fun v _ => each v
  rw [renderPiece, h]
  exact Outcome.bind_eq_ok.mpr ⟨items, rfl, Outcome.bind_eq_ok.mpr ⟨_, texts, rfl⟩⟩

end Template

namespace SourceFile

/-- The lines of a file before its declaration. -/
def headerLines (packageName : String) (uses : List Value) : List String :=
  (if packageName = "" then [] else ["package " ++ packageName]) ++ [""] ++
    if uses.isEmpty then [] else uses.map (fun v => "uses " ++ v.display ++ ";") ++ [""]

theorem plainFile_eq (packageName : String) (uses : List Value) (body : String) :
    plainFile packageName uses body =
      String.join ((headerLines packageName uses).map (· ++ "\n")) ++ body := by
  rw [← Text.joinLines_concat]
  rfl

theorem join_packageLine (packageName : String) :
    String.join ((if packageName = "" then [] else ["package " ++ packageName]).map (· ++ "\n")) =
      if packageName = "" then "" else "package " ++ packageName ++ "\n" := by
  split <;> simp

/-! ## What the header makes -/

section

variable {context : Entries} {packageName body : String} {uses : List Value}

theorem render_packageLine (h : context.lookup "package_name" = some (.str packageName)) :
    Template.renderPiece .plain context
        (.conditional "package_name" [.text "package ", .output "package_name", .text "\n"]) =
      .ok (if packageName = "" then "" else "package " ++ packageName ++ "\n") := by
  rw [Template.renderPiece, h, Option.getD_some]
  by_cases none : packageName = ""
  · rw [none]
    rfl
  · have named : (Value.str packageName).truthy = true := by simpa [Value.truthy] using none
    rw [if_pos named, if_neg none]
    simp only [Template.renderAll, Template.renderPiece, h]
    rfl

/-- The lines of the imports, one for each. -/
theorem render_uses (h : context.lookup "uses" = some (.arr uses)) :
    Template.renderPiece .plain context
        (.repeated "module" "uses" [.text "uses ", .output "module", .text ";\n"]) =
      .ok (String.join (uses.map fun v => "uses " ++ v.display ++ ";\n")) := by
  refine Template.renderPiece_repeated h fun v => ?_
  simp only [Template.renderAll, Template.renderPiece, List.lookup_cons_self]
  simp [bind, Except.bind, Template.outputText, Template.Escaping.apply, String.append_assoc]

/-- The empty line behind the imports, if there are any. -/
theorem render_usesEnd (h : context.lookup "uses" = some (.arr uses)) :
    Template.renderPiece .plain context (.conditional "uses" [.text "\n"]) =
      .ok (if uses.isEmpty then "" else "\n") := by
  rw [Template.renderPiece, h, Option.getD_some, Value.truthy]
  cases uses <;> rfl

/-- The header makes the plain file, whatever else may have a name besides what it reads. -/
theorem render_header (hp : context.lookup "package_name" = some (.str packageName))
    (hu : context.lookup "uses" = some (.arr uses))
    (hb : context.lookup "body" = some (.str body)) :
    header.render .plain context = .ok (plainFile packageName uses body) := by
  have declaration : Template.renderPiece .plain context (.output "body") = .ok body := by
    rw [Template.renderPiece, hb]
    rfl
  have emptyLine : Template.renderPiece .plain context (.text "\n") = .ok "\n" := rfl
  have nothing : Template.renderAll .plain context [] = .ok "" := rfl
  have rendered := Template.renderAll_cons (render_packageLine hp)
    (Template.renderAll_cons emptyLine (Template.renderAll_cons (render_uses hu)
      (Template.renderAll_cons (render_usesEnd hu) (Template.renderAll_cons declaration nothing))))
  have imports :
      String.join ((if uses.isEmpty then [] else
          uses.map (fun v => "uses " ++ v.display ++ ";") ++ [""]).map (· ++ "\n")) =
        String.join (uses.map fun v => "uses " ++ v.display ++ ";\n") ++
          if uses.isEmpty then "" else "\n" := by
    cases uses <;> simp [String.append_assoc, Function.comp_def]
  rw [Template.render, header, rendered, plainFile_eq, headerLines, List.map_append,
    List.map_append, String.join_append, String.join_append, join_packageLine, imports]
  simp only [List.map_cons, List.map_nil, String.join_cons, String.join_nil, String.append_assoc,
    String.append_empty, String.empty_append]

end

/-! ## The template that comes with the library -/

set_option maxRecDepth 4000 in
theorem parse_templateText : Template.parse templateText = .ok header := by rfl

/-- What a file is written from, under the names that the header has for it. -/
def headerValues (packageName : String) (uses : List Value) (body : String) : Entries :=
  [("package_name", .str packageName), ("uses", .arr uses), ("body", .str body)]

/-- **A file is the same with the template of its header and without.** The engine that looks into the
shipped folder has the template, and rendering it gives just the text of the plain rule, for every
package name, all imports and every declaration. -/
theorem shipped_header_plain (packageName : String) (uses : List Value) (body : String) :
    ∃ engine, (TemplateEngine.new TemplateFolder.shipped).has templateName = (.ok true, engine) ∧
      (engine.render templateName (.obj (headerValues packageName uses body))).1 =
        .ok (plainFile packageName uses body) ∧
      compose (some header) packageName uses body = compose none packageName uses body := by
  have shipped : (TemplateEngine.new TemplateFolder.shipped).source? templateName =
      some (templateText, true) := rfl
  have kept : ((TemplateEngine.new TemplateFolder.shipped).keep templateName templateText).source?
      templateName = some (templateText, false) := rfl
  refine ⟨(TemplateEngine.new TemplateFolder.shipped).keep templateName templateText, ?_, ?_, ?_⟩
  · rw [TemplateEngine.has, TemplateEngine.load, shipped]
    dsimp only [TemplateEngine.new, TemplateEngine.reading]
    rw [TemplateLanguage.tags_read parse_templateText]
    rfl
  · have unescaped : TemplateLanguage.escapingFor templateName = .plain := by rfl
    have noSelf : ¬ Entries.has (headerValues packageName uses body) "self" = true :=
      Bool.false_ne_true
    have rendered : header.render .plain (TemplateLanguage.readValues header
        (headerValues packageName uses body ++ TemplateLanguage.usualValues (.str templateName))) =
        .ok (plainFile packageName uses body) :=
      render_header rfl rfl rfl
    have made : TemplateLanguage.tags.rendering templateName templateText
        (.obj (headerValues packageName uses body)) =
          .done (.ok (plainFile packageName uses body)) := by
      rw [TemplateLanguage.tags_rendering parse_templateText, TemplateLanguage.renderWith,
        if_neg noSelf, unescaped, rendered]
    exact congrArg Prod.fst (TemplateEngine.render_of_done kept rfl made)
  · exact render_header rfl rfl rfl

end SourceFile

end GosuForge
