import WorkloadNames.Config

/-!
The words of the command line: the commands, the options that take a value, the flags that take
none, and the operands, which are told apart by their order. Each command has its own; the options
and flags of the program itself may stand before or after the command.
-/

set_option autoImplicit false
set_option relaxedAutoImplicit false

namespace WorkloadNames.CommandLine

/-- The things that the program can be told to do. -/
inductive Verb where
  | nameImage
  | nameInstance
  | sanitize
  | check
  deriving DecidableEq, Repr

/-- An option that takes a value. -/
inductive Parameter where
  | format
  | config
  | namespaceName
  | kind
  | name
  deriving DecidableEq, Repr

/-- An option that takes no value. -/
inductive Flag where
  | logJson
  | label
  | help
  | version
  deriving DecidableEq, Repr

/-- A value that is known by its place. -/
inductive Operand where
  | tag
  | hash
  | hashedId
  | raw
  | names
  deriving DecidableEq, Repr

namespace Verb

/-- The verbs in the order in which they are told to a reader. -/
def all : List Verb := [.nameImage, .nameInstance, .sanitize, .check]

/-- The word for a verb. -/
def word : Verb → Text
  | .nameImage => "image".toList
  | .nameInstance => "instance".toList
  | .sanitize => "sanitize".toList
  | .check => "check".toList

/-- The verb of a word. -/
def ofWord? (word : Text) : Option Verb := all.find? fun verb ↦ verb.word = word

end Verb

/-- The word that asks for help on a command in place of running it. -/
def helpWord : Text := "help".toList

namespace Parameter

/-- The word for a parameter, without its two hyphens. -/
def word : Parameter → Text
  | .format => "format".toList
  | .config => "config".toList
  | .namespaceName => "namespace".toList
  | .kind => "kind".toList
  | .name => "name".toList

/-- What stands for the value of a parameter. -/
def placeholder : Parameter → Text
  | .format => "FORMAT".toList
  | .config => "PATH".toList
  | .namespaceName => "NAMESPACE".toList
  | .kind => "KIND".toList
  | .name => "NAME".toList

/-- A parameter as it is told to a reader. -/
def shown (parameter : Parameter) : Text :=
  ['-', '-'] ++ parameter.word ++ [' ', '<'] ++ parameter.placeholder ++ ['>']

/-- The values of a parameter, if they can be listed. -/
def choices : Parameter → List Text
  | .format => Format.all.map Format.word
  | _ => []

/-- Whether a text is a value of a parameter. -/
def accepts : Parameter → Text → Bool
  | .format, value => (Format.ofWord? value).isSome
  | .config, value => !value.isEmpty
  | .namespaceName, _ | .kind, _ | .name, _ => true

end Parameter

namespace Flag

/-- The word for a flag, without its two hyphens. -/
def word : Flag → Text
  | .logJson => "log-json".toList
  | .label => "label".toList
  | .help => "help".toList
  | .version => "version".toList

/-- The letter for a flag that has one. -/
def letter? : Flag → Option Char
  | .help => some 'h'
  | .version => some 'V'
  | .logJson | .label => none

/-- A flag as it is told to a reader. -/
def shown (flag : Flag) : Text := ['-', '-'] ++ flag.word

end Flag

namespace Operand

/-- An operand as it is told to a reader. -/
def shown : Operand → Text
  | .tag => "<TAG>".toList
  | .hash => "<HASH>".toList
  | .hashedId => "<HASHED_ID>".toList
  | .raw => "<RAW>".toList
  | .names => "<NAMES>...".toList

end Operand

/-! ### What may stand where -/

/-- The stretch of the command line that is being read: before the command, or after it. -/
inductive Stretch where
  | before
  | after (verb : Verb)
  deriving DecidableEq, Repr

namespace Stretch

/-- The parameters of a stretch. -/
def parameters : Stretch → List Parameter
  | .after .nameInstance => [.namespaceName, .kind, .name, .format, .config]
  | .before | .after .nameImage | .after .sanitize | .after .check => [.format, .config]

/-- The parameters that have to be given. -/
def required : Stretch → List Parameter
  | .after .nameInstance => [.namespaceName, .kind, .name]
  | .before | .after .nameImage | .after .sanitize | .after .check => []

/-- The flags of a stretch. -/
def flags : Stretch → List Flag
  | .before => [.logJson, .help, .version]
  | .after .check => [.label, .logJson, .help]
  | .after .nameImage | .after .nameInstance | .after .sanitize => [.logJson, .help]

/-- The operands of a stretch in their order; each has to be given. -/
def operands : Stretch → List Operand
  | .before => []
  | .after .nameImage => [.tag, .hash]
  | .after .nameInstance => [.hashedId]
  | .after .sanitize => [.raw]
  | .after .check => [.names]

/-- Whether a stretch has room for one more operand after some. -/
def hasRoom (stretch : Stretch) (given : Nat) : Bool :=
  stretch = .after .check || given < stretch.operands.length

/-- The parameter of a word. -/
def parameter? (stretch : Stretch) (word : Text) : Option Parameter :=
  stretch.parameters.find? fun parameter ↦ parameter.word = word

/-- The flag of a word. -/
def flag? (stretch : Stretch) (word : Text) : Option Flag :=
  stretch.flags.find? fun flag ↦ flag.word = word

/-- The flag of a letter. -/
def letterFlag? (stretch : Stretch) (letter : Char) : Option Flag :=
  stretch.flags.find? fun flag ↦ flag.letter? = some letter

end Stretch

end WorkloadNames.CommandLine
