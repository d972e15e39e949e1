import ResultLint.Regex.Basic
import ResultLint.Text.Blank

/-!
The written form of types: the normal form in which they are compared, and the shapes of a
result. A shape is an expression over the text of the type; its arguments may hold anything but
a closing angle bracket.
-/
namespace ResultLint.ReturnType

open Regex Unicode

/-- Blanks collapsed to single spaces and trimmed at both ends. -/
def normalize (type : List Char) : List Char :=
  Text.collapse type

namespace Shape

/-- One or more characters, none of them a closing angle bracket. -/
def argument : Regex :=
  .repeated (.char (CharSet.single '>').complement) 1 none

/-- Two arguments between a comma with blanks behind it. -/
def arguments : Regex :=
  seqAll [argument, .char (.single ','), .repeated (.char CharSet.blank) 0 none, argument]

/-- A whole text that consists of an opening, arguments and a closing. -/
def whole (opening : String) (inside : Regex) (closing : String) : Regex :=
  seqAll [
    .assertion .textStart, .literal opening.toList, inside, .literal closing.toList,
    .assertion .textEnd]

/-- A result of two arguments, of one, and promises of both. -/
def all : List Regex := [
  whole "Result<" arguments ">",
  whole "Result<" argument ">",
  whole "Promise<Result<" arguments ">>",
  whole "Promise<Result<" argument ">>"]

end Shape

/-- Whether a type has one of the shapes of a result. -/
def isResult (type : List Char) : Bool :=
  Shape.all.any fun shape => shape.isMatch type

end ResultLint.ReturnType
