import SqlBuilder.Text.Debug
import SqlBuilder.Text.Words

/-!
# Enumerations

The values behind the variants of an enumeration. A declaration says by attributes whether variants
stand for numbers or for texts, and how a text follows from the variant's name. Checking a
declaration gives one value per variant, or the first thing that is wrong with it.
-/

namespace SqlBuilder.Enumeration

/-- What follows the name of a setting. -/
inductive Setting where
  /-- The name stands alone. -/
  | flag
  /-- Something in parentheses. -/
  | group
  | text (value : String)
  /-- A value that is no text. -/
  | other
  deriving DecidableEq, Repr

/-- An item of an attribute. -/
structure Item where
  key : String
  setting : Setting := .flag
  deriving DecidableEq, Repr

/-- An attribute: a name with items. -/
structure Attribute where
  name : String
  items : List Item
  deriving DecidableEq, Repr

/-- A variant of a declaration. -/
structure Variant where
  name : String
  attributes : List Attribute := []
  /-- Whether values of the variant carry fields. -/
  hasFields : Bool := false
  deriving DecidableEq, Repr

/-- A type declaration. -/
inductive Declaration where
  | enumeration (attributes : List Attribute) (variants : List Variant)
  /-- A type without variants. -/
  | other
  deriving DecidableEq, Repr

/-- What is wrong with a declaration. -/
inductive DeclarationError where
  | notEnumeration
  | unknownItem
  | unknownVariantItem
  | textExpected
  | conventionOnNumbers
  | fields
  | renameOnNumbers
  | unknownConvention (name : String)
  deriving DecidableEq, Repr

/-- The error in words. -/
def DeclarationError.message : DeclarationError → String
  | .notEnumeration => "BackedEnum can only be derived for enums"
  | .unknownItem =>
    "unknown piece attribute (expected \x60int\x60 or \x60rename_all = \"...\"\x60)"
  | .unknownVariantItem => "unknown piece attribute (expected \x60rename = \"...\"\x60)"
  | .textExpected => "expected a string literal"
  | .conventionOnNumbers => "rename_all has no effect on integer-backed enums"
  | .fields => "BackedEnum variants must be unit variants (no fields)"
  | .renameOnNumbers => "rename is not allowed on integer-backed enums"
  | .unknownConvention name => "unknown rename_all convention: " ++ Text.debug name

/-- What stands for a variant. -/
inductive VariantValue where
  /-- The number that the declaration gives the variant. -/
  | number
  | text (value : String)
  deriving DecidableEq, Repr

/-- The name of the attributes that say something about backing values. -/
def attributeName : String := "piece"

/-- The items of all attributes about backing values. -/
def items (attributes : List Attribute) : List Item :=
  (attributes.filter (·.name == attributeName)).flatMap (·.items)

/-- The text of a setting that has to be one. -/
def Setting.toText : Setting → Except DeclarationError String
  | .text value => .ok value
  | _ => .error .textExpected

/-- What a declaration says about all its variants. -/
structure Options where
  hasNumbers : Bool := false
  /-- The name of the naming convention. -/
  convention : Option String := none
  deriving DecidableEq, Repr

/-- Takes note of an item; of two conventions the later counts. -/
def Options.add (options : Options) (item : Item) : Except DeclarationError Options :=
  match item.setting with
  | .flag =>
    if item.key == "int" then .ok { options with hasNumbers := true } else .error .unknownItem
  | .group => .error .unknownItem
  | setting =>
    if item.key == "rename_all" then do
      let name ← setting.toText
      return { options with convention := some name }
    else .error .unknownItem

/-- Takes note of all items. -/
def Options.addAll (options : Options) : List Item → Except DeclarationError Options
  | [] => .ok options
  | item :: rest => do
    let options ← options.add item
    options.addAll rest

/-- The options of a declaration. A convention makes no sense for numbers. -/
def Options.ofAttributes (attributes : List Attribute) : Except DeclarationError Options := do
  let options ← ({} : Options).addAll (items attributes)
  if options.hasNumbers && options.convention.isSome then throw .conventionOnNumbers
  return options

/-- The text that a variant asks for. The first item decides. -/
def Variant.rename (variant : Variant) : Except DeclarationError (Option String) :=
  match items variant.attributes with
  | [] => .ok none
  | item :: _ =>
    match item.setting with
    | .flag | .group => .error .unknownVariantItem
    | setting =>
      if item.key == "rename" then setting.toText.map some else .error .unknownVariantItem

/-- A name under a convention given by its name. -/
def applyConvention (convention : Option String) (name : String) :
    Except DeclarationError String :=
  let chosen := convention.getD "snake_case"
  match Text.Convention.ofName? chosen with
  | some convention => .ok (convention.apply name)
  | none => .error (.unknownConvention chosen)

/-- What stands for a variant. -/
def Variant.value (options : Options) (variant : Variant) :
    Except DeclarationError VariantValue := do
  if variant.hasFields then throw .fields
  match options.hasNumbers, ← variant.rename with
  | true, some _ => throw .renameOnNumbers
  | true, none => return .number
  | false, some text => return .text text
  | false, none => return .text (← applyConvention options.convention variant.name)

/-- The variants with what stands for them. -/
def values (options : Options) : List Variant →
    Except DeclarationError (List (String × VariantValue))
  | [] => .ok []
  | variant :: rest => do
    let value ← variant.value options
    return (variant.name, value) :: (← values options rest)

/-- The variants of a declaration with what stands for them. -/
def Declaration.values : Declaration → Except DeclarationError (List (String × VariantValue))
  | .other => .error .notEnumeration
  | .enumeration attributes variants => do
    Enumeration.values (← Options.ofAttributes attributes) variants

end SqlBuilder.Enumeration
