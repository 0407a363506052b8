/-! The declaration kinds a front end reports for a cursor. -/

namespace SymbolAtlas

inductive CursorKind where
  | translationUnit
  | unexposedDecl
  | structDecl
  | unionDecl
  | classDecl
  | enumDecl
  | fieldDecl
  | enumConstantDecl
  | functionDecl
  | varDecl
  | parmDecl
  | typedefDecl
  | method
  | namespaceDecl
  | linkageSpec
  | constructor
  | destructor
  | conversionFunction
  | functionTemplate
  | classTemplate
  | typeAliasDecl
  | namespaceAlias
  | usingDirective
  | usingDeclaration
  /-- Statements, expressions, references, attributes and the like. -/
  | other
deriving DecidableEq, Repr

namespace CursorKind

def all : List CursorKind :=
  [translationUnit, unexposedDecl, structDecl, unionDecl, classDecl, enumDecl, fieldDecl,
    enumConstantDecl, functionDecl, varDecl, parmDecl, typedefDecl, method, namespaceDecl,
    linkageSpec, constructor, destructor, conversionFunction, functionTemplate, classTemplate,
    typeAliasDecl, namespaceAlias, usingDirective, usingDeclaration, other]

def name : CursorKind → String
  | translationUnit => "TranslationUnit"
  | unexposedDecl => "UnexposedDecl"
  | structDecl => "StructDecl"
  | unionDecl => "UnionDecl"
  | classDecl => "ClassDecl"
  | enumDecl => "EnumDecl"
  | fieldDecl => "FieldDecl"
  | enumConstantDecl => "EnumConstantDecl"
  | functionDecl => "FunctionDecl"
  | varDecl => "VarDecl"
  | parmDecl => "ParmDecl"
  | typedefDecl => "TypedefDecl"
  | method => "CXXMethod"
  | namespaceDecl => "Namespace"
  | linkageSpec => "LinkageSpec"
  | constructor => "Constructor"
  | destructor => "Destructor"
  | conversionFunction => "ConversionFunction"
  | functionTemplate => "FunctionTemplate"
  | classTemplate => "ClassTemplate"
  | typeAliasDecl => "TypeAliasDecl"
  | namespaceAlias => "NamespaceAlias"
  | usingDirective => "UsingDirective"
  | usingDeclaration => "UsingDeclaration"
  | other => "Other"

def ofName (name : String) : CursorKind :=
  (all.find? fun kind => kind.name == name).getD other

def isDeclaration : CursorKind → Bool
  | translationUnit | other => false
  | _ => true

def isScope : CursorKind → Bool
  | namespaceDecl | structDecl | classDecl | unionDecl => true
  | _ => false

theorem ofName_name (kind : CursorKind) : ofName kind.name = kind := by
  cases kind <;> decide

end CursorKind

end SymbolAtlas
