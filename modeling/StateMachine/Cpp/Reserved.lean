/-!
Names that a generated C++ program cannot use for what a model declares.
-/

set_option autoImplicit false

namespace StateMachine.Cpp

def keywords : List String := [
  "alignas", "alignof", "and", "asm", "auto", "bitand", "bitor", "bool", "break", "case", "catch",
  "char", "class", "compl", "const", "constexpr", "const_cast", "continue", "decltype", "default",
  "delete", "do", "double", "dynamic_cast", "else", "enum", "explicit", "export", "extern", "false",
  "float", "for", "friend", "goto", "if", "inline", "int", "long", "mutable", "namespace", "new",
  "noexcept", "not", "nullptr", "operator", "or", "private", "protected", "public", "register",
  "reinterpret_cast", "return", "short", "signed", "sizeof", "static", "static_assert",
  "static_cast", "struct", "switch", "template", "this", "throw", "true", "try", "typedef",
  "typeid", "typename", "union", "unsigned", "using", "virtual", "void", "volatile", "while",
  "xor"]

/-- Identifiers that the generated program declares for itself. -/
def ownNames : List String := [
  "State", "Event", "main", "std", "statemachine", "state", "set_context", "get_name",
  "transition_to", "new_state", "initial_state", "event_by_name", "event_by_name_it", "input",
  "event_invoker"]

def isReserved (name : String) : Bool := keywords.contains name || ownNames.contains name

end StateMachine.Cpp
