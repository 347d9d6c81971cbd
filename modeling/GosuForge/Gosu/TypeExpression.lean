import GosuForge.Model.Description
import GosuForge.Text.Blank
import GosuForge.Value.Equality

/-!
# Type expressions

How the type of a member is written: the name of the type, wrapped as a collection when the
multiplicity has no upper bound, or as an array when it is a number other than one. `returnValue?`
is the literal that the body of a stub returns for a type.
-/

namespace GosuForge

/-- The words of type expressions and the literals for stubs. -/
structure TypeStyle where
  voidType : Value
  orderedCollection : Value
  unorderedCollection : Value
  arraySuffix : Value
  fallbackReturn : Value
  returns : Value
  deriving Repr

namespace TypeStyle

def default : TypeStyle where
  voidType := .str "void"
  orderedCollection := .str "List"
  unorderedCollection := .str "Set"
  arraySuffix := .str "[]"
  fallbackReturn := .str "null"
  returns := .obj
    [("boolean", .str "false"), ("int", .str "0"), ("long", .str "0"), ("short", .str "0"),
     ("byte", .str "0"), ("float", .str "0.0f"), ("double", .str "0.0d"), ("char", .str "'0'"),
     ("String", .str "\"\"")]

/-- Multiplicities without an upper bound. -/
def unbounded : List String := ["0..*", "1..*", "*"]

/-- A number as a multiplicity: ASCII digits only. -/
def isCount (multiplicity : String) : Bool :=
  multiplicity != "" && multiplicity.toList.all Char.isDigit

/-- The name of the type before its multiplicity is looked at: that of the element referred to, or
the text in its place, or the word for no type. Data that an association end stands at is no type. -/
def baseName (style : TypeStyle) (m : Model) (e : Element) : Value :=
  match e.type? with
  | some (.element id) => (m.get id).name.orElse style.voidType
  | some (.data (.str s)) => if e.isEnd then style.voidType else (Value.str s).orElse style.voidType
  | _ => style.voidType

def collectionName (style : TypeStyle) (isOrdered : Bool) : Value :=
  if isOrdered then style.orderedCollection else style.unorderedCollection

/-- The sum of a real number and a whole one, which must be in the range of real numbers. -/
def addWhole (x : Binary64) (v : Value) : Except Fault Value :=
  match v.wholeNumber? with
  | none => .error .wrongType
  | some n =>
    match Binary64.ofInt? n with
    | some y => .ok (.float (x.add y))
    | none => .error .tooLarge

/-- A type that is no list with the suffix of arrays: a text goes after a text, and numbers are
added. -/
def sum (type suffix : Value) : Except Fault Value :=
  match type, suffix with
  | .str s, .str t => .ok (.str (s ++ t))
  | .float x, .float y => .ok (.float (x.add y))
  | .float x, v => addWhole x v
  | v, .float x => addWhole x v
  | v, w =>
    match v.wholeNumber?, w.wholeNumber? with
    | some n, some k => .ok (.int (n + k))
    | _, _ => .error .wrongType

/-- A type with the suffix of arrays. A list in its place keeps what the suffix yields. -/
def withSuffix (type suffix : Value) : Inspection Value := do
  let m ← get
  match type, m.resolve type, suffix.items? with
  | .kept id, .arr items, some further => do
    set (m.set id (.new (.stray (.arr (items ++ further)))))
    pure type
  | _, _, _ => sum type suffix

/-- How many values a member holds, as far as its type shows it. -/
inductive Amount
  | single
  | collection
  | array
  deriving DecidableEq, Repr

def amountOf (e : Element) : Except Fault Amount :=
  let multiplicity := e.multiplicity?.getD (.str "")
  if !multiplicity.truthy then .ok .single
  else
    match multiplicity with
    | .str s =>
      .ok (if unbounded.contains (Text.trim s) then .collection
        else if s != "1" && isCount s then .array else .single)
    | _ => .error .noSuchMember

/-- The style with its word for no type kept in the model if it is a list. -/
def keepVoidType (style : TypeStyle) : Inspection TypeStyle := do
  let m ← get
  let (voidType, m) := m.keep style.voidType
  set m
  pure { style with voidType }

/-- The type expression of a member. A name that is no text can be wrapped, but not always be put
before the brackets of an array. -/
def expression (style : TypeStyle) (e : Element) : Inspection Value := do
  let m ← get
  let base := style.baseName m e
  match ← amountOf e with
  | .single => pure base
  | .collection =>
    let collection := style.collectionName (e.isOrdered?.getD (.bool false)).truthy
    pure (.str (collection.display ++ "<" ++ m.display base ++ ">"))
  | .array => withSuffix base style.arraySuffix

def isVoid (style : TypeStyle) (m : Model) (type : Value) : Bool :=
  (m.resolve type).equal (m.resolve style.voidType)

/-- What a stub returns for a type; nothing for no type. The literals are looked up by key. -/
def returnValue? (style : TypeStyle) (m : Model) (type : Value) : Except Fault (Option Value) :=
  if style.isVoid m type then .ok none
  else
    match style.returns, m.resolve type with
    | .obj returns, .str s => .ok (some (Entries.getD returns s style.fallbackReturn))
    | .obj _, v => if v.isKey then .ok (some style.fallbackReturn) else .error .wrongType
    | _, _ => .error .noSuchMember

/-- One part of a style under its name. -/
def setField (style : TypeStyle) (name : String) (v : Value) : Except Fault TypeStyle :=
  match name with
  | "void_type" => .ok { style with voidType := v }
  | "ordered_collection" => .ok { style with orderedCollection := v }
  | "unordered_collection" => .ok { style with unorderedCollection := v }
  | "array_suffix" => .ok { style with arraySuffix := v }
  | "fallback_return" => .ok { style with fallbackReturn := v }
  | "default_returns" => .ok { style with returns := v }
  | _ => .error .wrongType

/-- The usual style with some parts given by name. -/
def ofEntries (entries : Entries) : Except Fault TypeStyle :=
  entries.foldlM (fun style (name, v) => style.setField name v) default

end TypeStyle

end GosuForge
