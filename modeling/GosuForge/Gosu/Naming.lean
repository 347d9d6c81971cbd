import GosuForge.Text.Case
import GosuForge.Text.Line

/-!
# Names of members

A field is the member's name with a small first letter after an underscore; a name in capitals is a
constant and stays. A capitalised name that was changed this way is declared again as a property.

* `Naming.fieldName`: `Foo`, `foo` and `_foo` give `_foo`, and `URL` stays;
* `Naming.propertyAlias?`: the property, if there is one.
-/

namespace GosuForge.Naming

/-- A name that capitals leave as it is. -/
def isAllUppercase (name : String) : Bool := name == Text.upper name

def startsUppercase (name : String) : Bool :=
  match name.toList with
  | [] => false
  | c :: _ => Text.isUppercase c

def lowerFirst (name : String) : String :=
  match name.toList with
  | [] => name
  | c :: rest => String.ofList (Text.lowerChar c ++ rest)

def fieldName (name : String) : String :=
  if isAllUppercase name then name
  else (if Text.startsWith "_" name then "" else "_") ++ lowerFirst name

def propertyAlias? (name : String) : Option String :=
  if startsUppercase name && !isAllUppercase name then some name else none

end GosuForge.Naming
