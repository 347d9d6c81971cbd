import GosuForge.Gosu.Documentation
import GosuForge.Gosu.Modifier
import GosuForge.Gosu.Naming
import GosuForge.Gosu.TypeExpression
import GosuForge.Model.Relationship

/-!
# Declarations

Each classifier is declared in the form that `DeclarationForm.of?` picks for it, as a script of
lines. Each part is an inspection of the model, which a name that is a list may change.

* `Member.variableFor`, `Member.method`, `Member.constructor`: single members;
* `Declaration.members`, `operations`, `inheritedStubs`, `interfaceStubs`: the parts of a body;
* `Declaration.script`: a declaration with the declarations nested in it.

Members and associations come first, then operations, then stubs for what a class has to implement,
then nested declarations; every entry of a body is followed by an empty line.
-/

namespace GosuForge

inductive DeclarationForm
  | classForm
  | enhancement
  | interface
  | enumeration
  | annotationForm
  deriving DecidableEq, Repr

namespace DeclarationForm

/-- The stereotypes that give a class another form. -/
def annotationStereotype : String := "annotationType"

def enhancementStereotype : String := "Enhancement"

/-- Whether an element's stereotype is the given text. -/
def hasStereotype (e : Element) (stereotype : String) : Bool :=
  match e.stereotype? with
  | some (.str s) => s == stereotype
  | _ => false

/-- The form of a classifier; other elements are not declared. -/
def of? (e : Element) : Option DeclarationForm :=
  match e.sort? with
  | some .classSort =>
    if hasStereotype e annotationStereotype then some annotationForm
    else if hasStereotype e enhancementStereotype then some enhancement
    else some classForm
  | some .annotationType => some annotationForm
  | some .interface => some interface
  | some .enumeration => some enumeration
  | none => none

end DeclarationForm

/-- A model with the relationships between its elements. -/
structure Design where
  model : Model
  relationships : Repository
  deriving Inhabited

/-- Words of a line with single spaces between them. -/
def phrase (words : List Value) : Except Fault String := Model.joinNames " " words

/-- Keywords as one word of a line, or none. -/
def keywords (modifiers : List Modifier) : List Value :=
  if modifiers.isEmpty then [] else [.str (Text.join " " (Modifier.words modifiers))]

namespace Member

/-- The field of a name, which must be a text. -/
def fieldName (name : Value) : Except Fault String :=
  match name with
  | .str s => .ok (Naming.fieldName s)
  | _ => .error .noSuchMember

/-- The words that declare a property for a name. -/
def aliasWords (e : Element) : List Value :=
  match e.name with
  | .str s =>
    match Naming.propertyAlias? s with
    | some name =>
      .str "as" :: (if e.flags.isReadOnly then [.str "readonly"] else []) ++ [.str name]
    | none => []
  | _ => []

def defaultWords (e : Element) : Except Fault (List Value) :=
  let default := e.default?.getD (.str "")
  if !default.truthy then .ok []
  else
    match default with
    | .str s => .ok [.str ("= " ++ s)]
    | _ => .error .wrongType

/-- The variable of an attribute or association end; an unnamed one has none. -/
def variableFor (g : GosuSettings) (e : Element) : Inspection Script :=
  if !e.isNamed then pure []
  else do
    let field ← fieldName e.name
    let type ← TypeStyle.default.expression e
    let default ← defaultWords e
    let line ← phrase (keywords (Modifier.ofElement e) ++ [.str "var", .str field, .str ":", type]
      ++ aliasWords e ++ default)
    pure (Documentation.block g e.documentation ++ [.line line])

def constructor (g : GosuSettings) (e : Element) : Script :=
  if !e.isNamed then []
  else
    let visibility := match Modifier.visibilityWord? e with
      | some word => word ++ " "
      | none => ""
    Documentation.block g (.str "Default constructor")
      ++ [.line (visibility ++ "construct() \x7b"), .line "\x7d"]

/-- The parameters of an operation. Nothing else has any, and each must have a direction. -/
def parametersOf (m : Model) (e : Element) : Except Fault (List Element) :=
  match e.hides .listInputs, e.content with
  | true, _ => .error .wrongType
  | false, .operation parameters =>
    let elements := parameters.map m.get
    if !elements.all (·.direction?.isSome) then .error .noSuchMember
    else if e.hides .findResult then .error .wrongType
    else .ok elements
  | false, _ => .error .noSuchMember

def isResult (p : Element) : Bool := p.direction?.bind FieldValue.direction? = some .result

/-- The parameters that are written between the parentheses. -/
def inputs (parameters : List Element) : List Element := parameters.filter fun p => !isResult p

/-- The first parameter that stands for the result. -/
def result? (parameters : List Element) : Option Element := parameters.find? isResult

/-- A parameter with its type. -/
def parameterText (p : Element) : Inspection String := do
  let before ← get
  let name := before.display p.name
  let type ← TypeStyle.default.expression p
  let after ← get
  pure (name ++ ":" ++ after.display type)

/-- A line of the body of a stub: an empty one if the statement does not count as given. -/
def stubLine (stub : Value) : Except Fault Move :=
  if !stub.truthy then .ok (.line "")
  else
    match stub with
    | .str s => .ok (.line s)
    | _ => .error .wrongType

def returnLines (m : Model) (type : Option Value) : Except Fault Script :=
  match type with
  | none => .ok []
  | some type => do
    match ← TypeStyle.default.returnValue? m type with
    | none => .ok []
    | some v => .ok [.line ("return " ++ v.display)]

/-- The function of an operation; an unnamed one has none. -/
def method (g : GosuSettings) (e : Element) (withoutBody withoutParameters : Bool) :
    Inspection Script :=
  if !e.isNamed then pure []
  else do
    let before ← get
    let parameters ← parametersOf before e
    let params := inputs parameters
    let result := result? parameters
    let doc ← Documentation.ofMethod before e params result
    let texts ← (if withoutParameters then [] else params).mapM parameterText
    let m ← get
    let signature := m.display e.name ++ "(" ++ Text.join ", " texts ++ ")"
    let type ← result.mapM TypeStyle.default.expression
    let resultWords := match type with
      | some type => [.str ":", type]
      | none => []
    let line ← phrase ((Modifier.ofMethod e withoutBody).map (fun word => .str word.word)
      ++ [.str "function", .str signature] ++ resultWords)
    let head := Documentation.block g (.str doc)
    if withoutBody then pure (head ++ [.line line])
    else do
      let stub ← stubLine g.stub
      let returned ← returnLines m type
      pure (head ++ [.line (line ++ " \x7b"), .indent, stub] ++ returned
        ++ [.outdent, .line "\x7d"])

end Member

namespace Declaration

/-- Scripts one after the other, each followed by an empty line. -/
def spaced : List Script → Script
  | [] => []
  | script :: rest => script ++ .line "" :: spaced rest

/-- Something written for each of some elements, one after the other. -/
def forEach (write : Element → Inspection Script) (ids : List ElementId) : Inspection Script := do
  let scripts ← ids.mapM fun id => do
    let m ← get
    let e ← m.read id
    write e
  pure (spaced scripts)

/-- The variable for the far end of an association, if it is navigable and the near end stands at
`id`. -/
def farVariable (g : GosuSettings) (id near far : ElementId) : Inspection Script := do
  let m ← get
  let reference ← m.referenceOf near
  if reference != some id then pure []
  else
    match (m.get far).navigable? with
    | none => throw .noSuchMember
    | some navigable =>
      if navigable.truthy then forEach (Member.variableFor g) [far] else pure []

/-- The variables for the associations of an element: of each association the second end, then the
first. -/
def associationMembers (r : Repository) (g : GosuSettings) (id : ElementId) :
    Inspection Script := do
  let m ← get
  let associations ← r.associations m id
  let scripts ← associations.mapM fun (end1, end2) => do
    let second ← farVariable g id end1 end2
    let first ← farVariable g id end2 end1
    pure (second ++ first)
  pure scripts.flatten

/-- The variables of a classifier: its attributes, then the ends of its associations if wanted. -/
def members (r : Repository) (g : GosuSettings) (id : ElementId) (withAssociations : Bool) :
    Inspection Script := do
  let m ← get
  let attributes ← Members.given (m.get id).attributes?
  let own ← forEach (Member.variableFor g) attributes
  let others ← if withAssociations then associationMembers r g id else pure []
  pure (own ++ others)

/-- The operations of a class; abstract ones have no body. -/
def operations (g : GosuSettings) (id : ElementId) : Inspection Script := do
  let m ← get
  let operations ← Members.given (m.get id).operations?
  forEach (fun e => Member.method g e (Modifier.isAbstract e) false) operations

/-- The operations of an interface or annotation, none with a body. -/
def signatures (g : GosuSettings) (id : ElementId) (withoutParameters : Bool) :
    Inspection Script := do
  let m ← get
  let operations ← Members.given (m.get id).operations?
  forEach (fun e => Member.method g e true withoutParameters) operations

/-- The operations of an element that is there and has any. -/
def operationsOf (m : Model) (id : Option ElementId) : Except Fault (List ElementId) :=
  match id with
  | some id => Members.orNone (m.get id).operations?
  | none => .ok []

/-- The abstract operations of a superclass, with bodies. -/
def inheritedStubs (g : GosuSettings) (superClass : Option ElementId) : Inspection Script := do
  let m ← get
  let ids ← operationsOf m superClass
  let scripts ← ids.mapM fun id => do
    let e ← m.read id
    if Modifier.isAbstract e then
      let lines ← Member.method g e false false
      pure (spaced [lines])
    else pure []
  pure scripts.flatten

/-- All operations of the implemented interfaces, with bodies. -/
def interfaceStubs (g : GosuSettings) (interfaces : List (Option ElementId)) :
    Inspection Script := do
  let m ← get
  let scripts ← interfaces.mapM fun interface => do
    let ids ← operationsOf m interface
    forEach (fun e => Member.method g e false false) ids
  pure scripts.flatten

/-- The name of a related element, which must be there. -/
def targetName (m : Model) (target : Option ElementId) : Except Fault Value :=
  match target with
  | some id => (m.read id).map (·.name)
  | none => .error .noSuchMember

/-- A word such as `extends` before the name of the first of some targets. -/
def firstTarget (m : Model) (word : String) (targets : List (Option ElementId)) :
    Except Fault (List Value) :=
  match targets with
  | [] => .ok []
  | target :: _ => do
    match ← targetName m target with
    | .str s => .ok [.str (word ++ s)]
    | _ => .error .wrongType

/-- A word such as `implements` before the names of all targets. -/
def allTargets (m : Model) (word : String) (targets : List (Option ElementId)) :
    Except Fault (List Value) :=
  if targets.isEmpty then .ok []
  else do
    let names ← targets.mapM (targetName m)
    let list ← Model.joinNames ", " names
    .ok [.str (word ++ list)]

/-- The first line of a declaration and the step into its body. -/
def head (modifiers : List Value) (keyword : String) (e : Element) (related : List Value) :
    Except Fault Script := do
  let line ← phrase (modifiers ++ [.str keyword, e.name] ++ related)
  .ok [.line (line ++ " \x7b"), .line "", .indent]

def close : Script := [.outdent, .line "\x7d"]

/-- The lines of an enumeration: a comma after each literal but the last. -/
def literalLines (m : Model) : List ElementId → Except Fault Script
  | [] => .ok []
  | id :: rest => do
    let e ← m.read id
    match e.name with
    | .str s => do
      let lines ← literalLines m rest
      .ok (.line (if rest.isEmpty then s else s ++ ",") :: lines)
    | _ => .error .wrongType

/-- A class up to what is nested in it. -/
def classScript (r : Repository) (g : GosuSettings) (id : ElementId) : Inspection Script := do
  let m ← get
  let e := m.get id
  let doc ← Documentation.withAuthor g e
  let modifiers ← Modifier.ofClassifier m e
  let superClasses ← r.superClasses m id
  let extended ← firstTarget m "extends " superClasses
  let interfaces ← r.superInterfaces m id
  let implemented ← allTargets m "implements " interfaces
  let opening ← head (keywords modifiers) "class" e (extended ++ implemented)
  let fields ← members r g id true
  let functions ← operations g id
  let inherited ← inheritedStubs g (superClasses.head?.getD none)
  let stubs ← interfaceStubs g interfaces
  pure (Documentation.block g (.str doc) ++ opening ++ Member.constructor g e ++ [.line ""]
    ++ fields ++ functions ++ inherited ++ stubs)

def enhancementScript (r : Repository) (g : GosuSettings) (id : ElementId) :
    Inspection Script := do
  let m ← get
  let e := m.get id
  let doc ← Documentation.withAuthor g e
  let superClasses ← r.superClasses m id
  let extended ← firstTarget m ": " superClasses
  let opening ← head (keywords (Modifier.ofElement e)) "enhancement" e extended
  let fields ← members r g id true
  let functions ← operations g id
  pure (Documentation.block g (.str doc) ++ opening ++ fields ++ functions)

def interfaceScript (r : Repository) (g : GosuSettings) (id : ElementId) :
    Inspection Script := do
  let m ← get
  let e := m.get id
  let visibility := keywords (Modifier.ofVisibility e)
  let superClasses ← r.superClasses m id
  let extended ← allTargets m "extends " superClasses
  let opening ← head visibility "interface" e extended
  let fields ← members r g id true
  let functions ← signatures g id false
  pure (Documentation.block g e.documentation ++ opening ++ fields ++ functions)

def annotationScript (r : Repository) (g : GosuSettings) (id : ElementId) :
    Inspection Script := do
  let m ← get
  let e := m.get id
  let doc ← Documentation.withAuthor g e
  let modifiers ← Modifier.ofClassifier m e
  let opening ← head (keywords modifiers) "annotation" e []
  let fields ← members r g id false
  let functions ← signatures g id true
  let superClasses ← r.superClasses m id
  let inherited ← inheritedStubs g (superClasses.head?.getD none)
  pure (Documentation.block g (.str doc) ++ opening ++ fields ++ functions ++ inherited)

/-- An enumeration shows nothing but its literals. -/
def enumerationScript (m : Model) (g : GosuSettings) (id : ElementId) : Except Fault Script := do
  let e := m.get id
  let literals ← Members.orNone e.literals?
  let lines ← literalLines m literals
  .ok (Documentation.block g e.documentation
    ++ [.line ("enum " ++ m.display e.name ++ " \x7b"), .indent] ++ lines ++ close)

/-- A declaration that is opened by its own script, with the script of what is nested in it. -/
def around (own nested : Inspection Script) : Inspection Script := do
  let own ← own
  let nested ← nested
  pure (own ++ nested ++ close)

/-- The declaration of an element in a form, around the script of what is nested in it. -/
def scriptFor (r : Repository) (g : GosuSettings) (form : DeclarationForm) (id : ElementId)
    (nested : Inspection Script) : Inspection Script :=
  match form with
  | .classForm => around (classScript r g id) nested
  | .enhancement => around (enhancementScript r g id) nested
  | .interface => around (interfaceScript r g id) nested
  | .annotationForm => around (annotationScript r g id) nested
  | .enumeration => do
    let m ← get
    enumerationScript m g id

/-- The declaration of an owned element around the script of what is nested in it, followed by an
empty line; an unnamed element and one without a form have none. -/
def ownedScript (r : Repository) (g : GosuSettings) (m : Model) (child : ElementId)
    (nested : Inspection Script) : Inspection Script := do
  let e ← m.read child
  match DeclarationForm.of? e with
  | none => pure []
  | some form =>
    if !e.isNamed then pure []
    else do
      let script ← scriptFor r g form child nested
      pure (spaced [script])

/-- The declarations nested in an element down to the depth `fuel`. -/
def nestedScript (r : Repository) (g : GosuSettings) : Nat → ElementId → Inspection Script
  | 0, _ => throw .nestingTooDeep
  | fuel + 1, id => do
    let m ← get
    let owned ← Members.given (m.get id).owned?
    let scripts ← owned.mapM fun child => ownedScript r g m child (nestedScript r g fuel child)
    pure scripts.flatten

/-- The declaration of an element in the given form. -/
def script (r : Repository) (g : GosuSettings) (form : DeclarationForm) (id : ElementId) :
    Inspection Script := do
  let m ← get
  scriptFor r g form id (nestedScript r g m.depth id)

end Declaration

end GosuForge
