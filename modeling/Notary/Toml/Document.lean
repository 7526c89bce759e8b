import Notary.Toml.Lexeme
import Notary.Toml.Table

namespace Notary.TomlDocument

open Lexeme (Reader)

/-!
Configuration documents: lines that assign values to keys, under headers that name tables.
-/

/-- A number, a date or a time. -/
def scalarNumber (text : List Char) : Option (Toml × List Char) :=
  match Lexeme.skipDatetime? text with
  | some rest => some (.datetime, rest)
  | none =>
      match Lexeme.fraction text with
      | some (fraction, rest) =>
          let value := Binary64.ofDecimal fraction.negative fraction.digits fraction.exponent
          if value = .infinite false then none else some (.float value, rest)
      | none =>
          match Lexeme.sign text with
          | (negative, 'i' :: 'n' :: 'f' :: rest) => some (.float (.infinite negative), rest)
          | (_, 'n' :: 'a' :: 'n' :: rest) => some (.float .nan, rest)
          | _ => (Lexeme.integer text).map fun found => (.integer found.1, found.2)

/-- A value that holds no other values. -/
def scalar (text : List Char) : Option (Toml × List Char) :=
  match text with
  | 't' :: 'r' :: 'u' :: 'e' :: rest => some (.boolean true, rest)
  | 'f' :: 'a' :: 'l' :: 's' :: 'e' :: rest => some (.boolean false, rest)
  | c :: _ =>
      if c = '"' || Lexeme.isApostrophe c then
        (Lexeme.string text).map fun found => (.string found.1, found.2)
      else scalarNumber text
  | [] => none

mutual

/-- A value inside `depth` others. -/
def value : (fuel depth : Nat) → Reader Toml
  | 0, _, _ => none
  | fuel + 1, depth, text =>
      match text with
      | '[' :: rest =>
          if Lexeme.depthLimit ≤ depth + 1 then none
          else (items fuel (depth + 1) rest).map fun found => (.array found.1, found.2)
      | '\x7b' :: rest =>
          if Lexeme.depthLimit ≤ depth + 1 then none
          else
            match Lexeme.skipBlanks rest with
            | '\x7d' :: after => some (.table .inline [], after)
            | _ =>
                (fields fuel (depth + 1) [] rest).map fun found => (.table .inline found.1, found.2)
      | _ => scalar text
termination_by fuel => (fuel, 0)

def items : (fuel depth : Nat) → Reader (List Toml)
  | 0, _, _ => none
  | fuel + 1, depth, text =>
      match Lexeme.skipLines text.length text with
      | ']' :: rest => some ([], rest)
      | start => do
          let (item, rest) ← value fuel depth start
          match Lexeme.skipLines rest.length rest with
          | ']' :: after => some ([item], after)
          | ',' :: after => do
              let (others, rest) ← items fuel depth after
              some (item :: others, rest)
          | _ => none
termination_by fuel => (fuel, 0)

def fields : (fuel depth : Nat) → TomlTable → Reader TomlTable
  | 0, _, _, _ => none
  | fuel + 1, depth, table, text => do
      let ((path, key), rest) ← Lexeme.key text
      let rest ← Lexeme.skipChar? '=' rest
      let (assigned, rest) ← value fuel depth (Lexeme.skipBlanks rest)
      let table ← TomlTable.assign table path key assigned .header
      match Lexeme.skipBlanks rest with
      | '\x7d' :: after => some (table, after)
      | ',' :: after => fields fuel depth table after
      | _ => none
termination_by fuel => (fuel, 0)

end

def header (text : List Char) : Option (TomlStatement × List Char) :=
  match text with
  | '[' :: '[' :: rest => do
      let ((path, key), rest) ← Lexeme.key rest
      let rest ← Lexeme.skipChar? ']' rest
      let rest ← Lexeme.skipChar? ']' rest
      some (.element path key, rest)
  | '[' :: rest => do
      let ((path, key), rest) ← Lexeme.key rest
      let rest ← Lexeme.skipChar? ']' rest
      some (.header path key, rest)
  | _ => none

def assignment (text : List Char) : Option (TomlStatement × List Char) := do
  let ((path, key), rest) ← Lexeme.key text
  let rest ← Lexeme.skipChar? '=' rest
  let (assigned, rest) ← value (text.length + 1) 0 (Lexeme.skipBlanks rest)
  some (.assign path key assigned, rest)

def statements : (fuel : Nat) → List Char → Option (List TomlStatement)
  | 0, _ => none
  | fuel + 1, text =>
      match Lexeme.skipLines text.length text with
      | [] => some []
      | start => do
          let (statement, rest) ←
            if start.head? = some '[' then header start else assignment start
          let rest ← Lexeme.skipLineEnd? rest
          let others ← statements fuel rest
          some (statement :: others)

/-- The text without a byte order mark at its start. -/
def dropMark : List Char → List Char
  | c :: rest => if c.toNat = 0xfeff then rest else c :: rest
  | [] => []

def parse? (text : String) : Option TomlTable := do
  let chars := dropMark text.toList
  let found ← statements (chars.length + 1) chars
  TomlTable.build [] [] found

end Notary.TomlDocument
