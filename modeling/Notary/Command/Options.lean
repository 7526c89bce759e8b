import Notary.Text.Quoted

namespace Notary.Command

/-!
The options of the command. An option is written with its letter or its name, and takes its value
from the same word or from the next one; a value that looks like an option must stand in the same
word. Every option is given once at most.
-/

/-- The options that take a value. -/
inductive Setting where
  | endpoint
  | seed
  | data
  | appId
  | config
  deriving DecidableEq, Repr

/-- The options that take none. -/
inductive Switch where
  | offline
  | json
  | help
  deriving DecidableEq, Repr

structure Options where
  endpoint : String
  seed : String
  data : String
  appId : Int
  config : Option String
  offline : Bool
  json : Bool
  deriving DecidableEq, Repr

/-- Why no command is carried out. -/
inductive Stop where
  | usage
  | help
  deriving DecidableEq, Repr

namespace Setting

def letter : Setting → Char
  | endpoint => 'e'
  | seed => 's'
  | data => 'd'
  | appId => 'a'
  | config => 'c'

def name : Setting → String
  | endpoint => "endpoint"
  | seed => "seed"
  | data => "data"
  | appId => "app-id"
  | config => "config"

def all : List Setting := [endpoint, seed, data, appId, config]

def ofLetter? (letter : Char) : Option Setting :=
  all.find? (·.letter = letter)

def ofName? (name : String) : Option Setting :=
  all.find? (·.name = name)

end Setting

def Switch.ofName? : String → Option Switch
  | "offline" => some .offline
  | "json" => some .json
  | "help" => some .help
  | _ => none

def defaultEndpoint : String := "http://localhost:8545"

def defaultData : String := "Hello from Rust"

def defaultAppId : Int := 2

def readDigits (digits : List Char) : Option Nat :=
  if digits.isEmpty || !digits.all Char.isDigit then none
  else some (digits.foldl (fun value digit => value * 10 + (digit.toNat - 48)) 0)

/-- A number with an optional sign that fits a signed word of 32 bits. -/
def readInteger (text : String) : Option Int := do
  let value : Int ←
    match text.toList with
    | '-' :: digits => (readDigits digits).map fun value => -(value : Int)
    | '+' :: digits => (readDigits digits).map fun value => (value : Int)
    | digits => (readDigits digits).map fun value => (value : Int)
  if -0x8000_0000 ≤ value ∧ value < 0x8000_0000 then some value else none

structure Given where
  values : List (Setting × String)
  switches : List Switch
  deriving Repr

namespace Given

def none : Given := ⟨[], []⟩

def accepts (setting : Setting) (value : String) : Bool :=
  match setting with
  | .appId => (readInteger value).isSome
  | .config => !value.isEmpty
  | _ => true

def addValue (given : Given) (setting : Setting) (value : String) : Except Stop Given :=
  if !accepts setting value || (given.values.lookup setting).isSome then .error .usage
  else .ok { given with values := (setting, value) :: given.values }

def addSwitch (given : Given) (switch : Switch) : Except Stop Given :=
  if switch = .help then .error .help
  else if given.switches.contains switch then .error .usage
  else .ok { given with switches := switch :: given.switches }

def value? (given : Given) (setting : Setting) : Option String :=
  given.values.lookup setting

end Given

/-- Whether a word looks like an option; a single dash does not. -/
def isOption (word : String) : Bool :=
  match word.toList with
  | '-' :: _ :: _ => true
  | _ => false

inductive Word where
  | sets (setting : Setting) (text : String)
  /-- The value is the next word. -/
  | awaits (setting : Setting)
  | turnsOn (switch : Switch)
  /-- No options follow. -/
  | ends
  | unknown
  deriving DecidableEq, Repr

namespace Word

/-- A word that begins with two dashes, without them. -/
def ofLong (text : List Char) : Word :=
  let (name, rest) := text.span (· != '=')
  let name := String.ofList name
  match rest with
  | _ :: value =>
      match Setting.ofName? name with
      | some setting => .sets setting (String.ofList value)
      | none => .unknown
  | [] =>
      match Setting.ofName? name, Switch.ofName? name with
      | some setting, _ => .awaits setting
      | none, some switch => .turnsOn switch
      | none, none => .unknown

/-- A word that begins with one dash and a letter, without the dash. -/
def ofShort (letter : Char) (rest : List Char) : Word :=
  if letter = 'h' then .turnsOn .help
  else
    match Setting.ofLetter? letter, rest with
    | none, _ => .unknown
    | some setting, [] => .awaits setting
    | some setting, '=' :: value => .sets setting (String.ofList value)
    | some setting, value => .sets setting (String.ofList value)

def ofText (word : String) : Word :=
  match word.toList with
  | ['-', '-'] => .ends
  | '-' :: '-' :: text => ofLong text
  | '-' :: letter :: rest => ofShort letter rest
  | _ => .unknown

end Word

def collect : List String → Given → Except Stop Given
  | [], given => .ok given
  | word :: rest, given =>
      match Word.ofText word, rest with
      | .sets setting text, rest => do collect rest (← given.addValue setting text)
      | .turnsOn switch, rest => do collect rest (← given.addSwitch switch)
      | .awaits setting, text :: rest =>
          if isOption text then .error .usage
          else do collect rest (← given.addValue setting text)
      | .ends, [] => .ok given
      | _, _ => .error .usage

/-- The options that the words give. The environment may name a seed that they do not give. -/
def parse (words : List String) (namedSeed : Option String) : Except Stop Options := do
  let given ← collect words .none
  let appId := ((given.value? .appId).bind readInteger).getD defaultAppId
  match given.value? .seed <|> namedSeed with
  | none => .error .usage
  | some seed =>
      .ok
        { endpoint := (given.value? .endpoint).getD defaultEndpoint
          seed
          data := (given.value? .data).getD defaultData
          appId
          config := given.value? .config
          offline := given.switches.contains .offline
          json := given.switches.contains .json }

def helpText (namedSeed : Option String) : String :=
  "Submit a data payload and wait for its finality receipt\n\n"
    ++ "Usage: ledger-submit [OPTIONS] --seed <SEED>\n\nOptions:\n"
    ++ "  -e, --endpoint <ENDPOINT>  JSON-RPC endpoint of the ledger [default: "
    ++ defaultEndpoint ++ "]\n"
    ++ "  -s, --seed <SEED>          Mnemonic (optionally suffixed with //index) or hex private "
    ++ "key [env: LEDGER_BRIDGE_SEED=" ++ namedSeed.getD "" ++ "]\n"
    ++ "  -d, --data <DATA>          Payload to submit [default: " ++ Quoted.encode defaultData
    ++ "]\n"
    ++ "  -a, --app-id <APP_ID>      Application id the payload is filed under [default: "
    ++ toString defaultAppId ++ "]\n"
    ++ "  -c, --config <CONFIG>      TOML configuration file (defaults to LEDGER_BRIDGE_CONFIG, "
    ++ "then built-ins)\n"
    ++ "      --offline              Run against an in-memory ledger instead of the endpoint\n"
    ++ "      --json                 Print the receipt as JSON\n"
    ++ "  -h, --help                 Print help\n"

end Notary.Command
