import RouteScaffold.Naming.Format
import RouteScaffold.Path

/-!
What can go wrong in a run, and how each case is worded.

Every failure says which group, route or file it is about. The cases that stem from a template or
from the file system carry that cause beside their headline.
-/

namespace RouteScaffold

/-- A route as error messages name it. -/
structure RouteRef where
  group : String
  route : Nat
  /-- The handler token as it stands in the graph. -/
  handler : String
  deriving DecidableEq, Repr

def RouteRef.text (ref : RouteRef) : String :=
  "group '" ++ ref.group ++ "', route #" ++ toString ref.route ++ " (handler '" ++ ref.handler ++ "')"

/-- Why a handler token leaves no name. -/
inductive TokenFault where
  | empty
  | nothingLeft (token : String)
  deriving DecidableEq, Repr

def TokenFault.message : TokenFault → String
  | .empty => "handler token is empty"
  | .nothingLeft token => "handler token '" ++ token ++ "' has nothing left after stripping the suffix"

/-- Who holds an error code or a block of them. -/
inductive CodeHolder where
  | entry (name : String)
  | block (subject : String)
  deriving DecidableEq, Repr

def CodeHolder.text : CodeHolder → String
  | .entry name => name
  | .block subject => "block of '" ++ subject ++ "'"

/-- What a generated file is made for. -/
inductive Owner where
  | errorCatalog
  | policyTable
  | authInterface (group : String)
  | route (ref : RouteRef)
  deriving DecidableEq, Repr

def Owner.text : Owner → String
  | .errorCatalog => "auth error catalog"
  | .policyTable => "policy table"
  | .authInterface group => "auth interface of group '" ++ group ++ "'"
  | .route ref => ref.text

inductive TemplateFault where
  | badSyntax
  | undefinedValue
  | unknownTemplate
  | unknownFilter
  | invalidOperation
  deriving DecidableEq, Repr

inductive IoFault where
  | notFound
  | alreadyExists
  | isDirectory
  | notDirectory
  | notText
  | nameTooLong
  | invalidName
  /-- Anything else, in the words of the machine. -/
  | other (details : String)
  deriving DecidableEq, Repr

inductive Failure where
  | configuration (format : String) (fault : Naming.FormatFault)
  | namingResolution (location : RouteRef) (fault : TokenFault)
  | duplicateCode (code : Nat) (first second : CodeHolder)
  | codeBlockOverflow (subject : String) (routes : Nat) (capacity : Nat)
  | codeRangeExhausted (subject : String) (groupIndex : Nat)
  | duplicateIdentifier (identifier : String) (first second : RouteRef)
  | artifactCollision (path : Path) (first second : Owner)
  | templateRender (template : String) (artifact : Path) (fault : TemplateFault)
  | templateCompile (template : String) (fault : TemplateFault)
  | templateLoad (path : Path) (fault : IoFault)
  | write (path : Path) (fault : IoFault)
  deriving DecidableEq, Repr

/-- The outside event that a failure passes on. -/
inductive Cause where
  | template (fault : TemplateFault)
  | io (fault : IoFault)
  deriving DecidableEq, Repr

namespace Failure

/-- The message of a failure, up to the cause that it passes on. -/
def headline : Failure → String
  | .configuration format fault => "invalid naming format '" ++ format ++ "': " ++ fault.message
  | .namingResolution location fault =>
    "cannot derive names for " ++ location.text ++ ": " ++ fault.message
  | .duplicateCode code first second =>
    "error code " ++ toString code ++ " assigned twice: " ++ first.text ++ " and " ++ second.text
  | .codeBlockOverflow subject routes capacity =>
    "authorization group '" ++ subject ++ "' has " ++ toString routes ++
      " routes but an error-code block holds at most " ++ toString capacity
  | .codeRangeExhausted subject groupIndex =>
    "no error-code block #" ++ toString groupIndex ++ " for '" ++ subject ++
      "': codes would exceed u32"
  | .duplicateIdentifier identifier first second =>
    "identifier '" ++ identifier ++ "' derived twice: " ++ first.text ++ " and " ++ second.text
  | .artifactCollision path first second =>
    path.text ++ " produced twice: " ++ first.text ++ " and " ++ second.text
  | .templateRender template artifact _ =>
    "failed to render template '" ++ template ++ "' for " ++ artifact.text
  | .templateCompile template _ => "template '" ++ template ++ "' does not compile"
  | .templateLoad path _ => "failed to load template override " ++ path.text
  | .write path _ => "failed to write " ++ path.text

def cause? : Failure → Option Cause
  | .templateRender _ _ fault | .templateCompile _ fault => some (.template fault)
  | .templateLoad _ fault | .write _ fault => some (.io fault)
  | _ => none

/-- The whole message, with the cause worded by `describe`. -/
def messageWith (describe : Cause → String) (failure : Failure) : String :=
  match failure.cause? with
  | some cause => failure.headline ++ ": " ++ describe cause
  | none => failure.headline

end Failure

def TemplateFault.message : TemplateFault → String
  | .badSyntax => "syntax error"
  | .undefinedValue => "undefined value"
  | .unknownTemplate => "template not found"
  | .unknownFilter => "unknown filter"
  | .invalidOperation => "invalid operation"

def IoFault.message : IoFault → String
  | .notFound => "no such file or directory"
  | .alreadyExists => "file exists"
  | .isDirectory => "is a directory"
  | .notDirectory => "not a directory"
  | .notText => "not valid UTF-8"
  | .nameTooLong => "file name too long"
  | .invalidName => "invalid file name"
  | .other details => details

def Cause.message : Cause → String
  | .template fault => fault.message
  | .io fault => fault.message

def Failure.message (failure : Failure) : String :=
  failure.messageWith Cause.message

end RouteScaffold
