import IdentityStore.Text.Outline

/-!
# Errors

What can go wrong when the policy of an identity store is declared, validated, resolved or used.
An error is a cause; its wording is in `Error.message` alone.
-/

namespace IdentityStore

open Text

inductive ArgumentFault where
  /-- A text, given in lowercase, names no kind of type. -/
  | unknownTypeKind (text : String)
  /-- A text, given in lowercase, names no operation. -/
  | unknownOperation (text : String)
  | blankTypeName
  | notKindAndName (text : String)
  /-- A managed type, given by its text, is not of relationship kind. -/
  | notRelationship (managedType : String)
  | blankHandlerName
  | noManagedTypes
  | noRelationshipTypes
  | other (reason : String)
deriving DecidableEq

inductive ConfigurationFault where
  | noSupportedTypes
  | alreadyValidated
  | notValidated
  | noStoreConfigured
deriving DecidableEq

inductive Error where
  | invalidArgument (fault : ArgumentFault)
  | configuration (fault : ConfigurationFault)
  | context (reason : String)
deriving DecidableEq

def ArgumentFault.message : ArgumentFault → String
  | unknownTypeKind text => "unknown type kind '" ++ text ++ "'"
  | unknownOperation text => "unknown identity operation '" ++ text ++ "'"
  | blankTypeName => "managed type name must not be blank"
  | notKindAndName text => "managed type '" ++ text ++ "' is not of the form kind:name"
  | notRelationship managedType => managedType ++ " is not a relationship type"
  | blankHandlerName => "credential handler name must not be blank"
  | noManagedTypes => "at least one managed type must be given"
  | noRelationshipTypes => "at least one relationship type must be given"
  | other reason => reason

namespace ConfigurationFault

def message : ConfigurationFault → String
  | noSupportedTypes => "The store configuration must have at least one supported type"
  | alreadyValidated =>
    "The store configuration is already validated and accepts no further declarations"
  | notValidated => "The store configuration must be validated before it is resolved"
  | noStoreConfigured => "No identity store configuration was provided"

def name : ConfigurationFault → String
  | noSupportedTypes => "NoSupportedTypes"
  | alreadyValidated => "AlreadyValidated"
  | notValidated => "NotValidated"
  | noStoreConfigured => "NoStoreConfigured"

end ConfigurationFault

namespace Error

def message : Error → String
  | invalidArgument fault => "Invalid argument: " ++ fault.message
  | configuration fault => "Configuration error: " ++ fault.message
  | context reason => "Context error: " ++ reason

def outline : Error → Outline
  | invalidArgument fault => .tagged "InvalidArgument" [.text fault.message]
  | configuration fault => .tagged "Configuration" [.leaf fault.name]
  | context reason => .tagged "Context" [.text reason]

def cause? : Error → Option ConfigurationFault
  | configuration fault => some fault
  | _ => none

/-- Whether an error ends the building of the configuration it arose in. -/
def isConfiguration (e : Error) : Bool := e.cause?.isSome

/-- Two errors are the same when they are of one kind and read the same. -/
def same : Error → Error → Bool
  | invalidArgument a, invalidArgument b => a.message == b.message
  | configuration a, configuration b => a == b
  | context a, context b => a == b
  | _, _ => false

end Error

end IdentityStore
