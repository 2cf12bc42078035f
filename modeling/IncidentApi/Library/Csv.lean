import Mathlib.Data.List.Basic

/-!
# Comma-separated records

A reader of records whose fields are never quoted: it takes one character at a time, and what it has
read so far lies in its state. Records of fields without separators, written with a line end after
each, are read back as they were.
-/
namespace Csv

structure Reader where
  records : List (List String)
  /-- The fields of the record that is being read, and the characters of the last one. -/
  fields : List String
  text : List Char
  deriving DecidableEq, Repr

def Reader.next (reader : Reader) (c : Char) : Reader :=
  match c with
  | ',' => { reader with fields := reader.fields ++ [String.ofList reader.text], text := [] }
  -- half of a line end
  | '\r' => reader
  | '\n' => ⟨reader.records ++ [reader.fields ++ [String.ofList reader.text]], [], []⟩
  | other => { reader with text := reader.text ++ [other] }

def Reader.run (reader : Reader) (text : List Char) : Reader := text.foldl Reader.next reader

/-- The records of a text; an unfinished last line is left out. -/
def parse (text : String) : List (List String) := (Reader.run ⟨[], [], []⟩ text.toList).records

end Csv
