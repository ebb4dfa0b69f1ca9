/-!
The names of the syntax nodes a visitor is generated for.
-/
namespace Scaffold

/-- The built-in node names, in the order of a definition file. -/
def builtinNodes : List String := [
  "Statements", "TernaryIf", "And", "Or", "Not", "BoolEquals", "LessThan", "LessThanOrEqual",
  "GreaterThan", "GreaterThanOrEqual", "Equals", "Plus", "Minus", "Times", "StringLessThan",
  "StringLessThanOrEqual", "StringGreaterThan", "StringGreaterThanOrEqual", "StringEquals",
  "StringRepeat", "StringConcat", "ListConcat", "Constant", "MethodCall", "SymbolRef",
  "FieldRef", "List", "Record", "FunctionCall", "ExpressionList", "LambdaExpression", "FuncArg",
  "FuncArgExpression", "FuncArgLambda", "FuncArgList", "Conditional", "Scope", "ForEach",
  "ForEachEnum", "If", "Elif", "Else", "Text", "InlinedExpression", "VariableStatement",
  "VariableList", "VariableDeclaration", "VariableAssignment", "Create"]

/-- Names in ascending order, repeated ones kept. -/
def sortedNodes (nodes : List String) : List String := nodes.mergeSort

def isIdentifierStart (c : Char) : Bool := c.isAlpha || c = '_'

def isIdentifierPart (c : Char) : Bool := c.isAlphanum || c = '_'

/-- A letter or underscore, and after it letters, digits and underscores, all of them ASCII. -/
def isIdentifier (s : String) : Bool :=
  match s.toList with
  | [] => false
  | c :: rest => isIdentifierStart c && rest.all isIdentifierPart

end Scaffold
