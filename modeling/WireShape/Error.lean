/-! # Errors

What can go wrong and has to be told. A type that cannot be resolved is no error: its shape is
`object`. -/

namespace WireShape

inductive Error
  | fileOperation (action details : String)
  | invalidArgument (what details : String)
  | recursionLimit (typeName : String) (depth : Nat)
  | registryLoad (source reason : String)
  | typeParse (details : String)
  | notRegistered (typeName : String)
deriving DecidableEq, Repr

namespace Error

def kind : Error → String
  | .fileOperation .. => "FileOperation"
  | .invalidArgument .. => "InvalidArgument"
  | .recursionLimit .. => "RecursionLimitExceeded"
  | .registryLoad .. => "RegistryLoad"
  | .typeParse _ => "TypeParse"
  | .notRegistered _ => "TypeNotRegistered"

def message : Error → String
  | .fileOperation action details =>
    "File operation failed: Failed to " ++ action ++ ": " ++ details
  | .invalidArgument what details => "Invalid argument: Invalid " ++ what ++ ": " ++ details
  | .recursionLimit typeName depth =>
    "Recursion limit of " ++ toString depth ++ " exceeded while resolving " ++ typeName
  | .registryLoad source reason =>
    "Registry load failed: Failed to load registry from " ++ source ++ ": " ++ reason
  | .typeParse details => "Type parse error: " ++ details
  | .notRegistered typeName => "Type not registered: " ++ typeName

end Error

end WireShape
