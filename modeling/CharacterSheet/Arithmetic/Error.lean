import CharacterSheet.Number

/-!
# Why an arithmetic expression has no value
-/

namespace CharacterSheet.Arithmetic

/-- What is wrong with the form of an expression. -/
inductive FormFault where
  | unexpectedText
  | unexpectedOpening
  | unexpectedClosing
  | unexpectedComma
  | unexpectedConstant
  | unexpectedFunction
  | unexpectedVariable
  | unknownCharacter
  | unmatchedParentheses
  /-- There are too few or too many operands for the operators. -/
  | parity
  | illegalEscape (c : Char)
  deriving Repr, DecidableEq

/-- The wording of a fault of form. -/
def FormFault.message : FormFault → String
  | .unexpectedText => "unexpected string"
  | .unexpectedOpening => "unexpected \"(\""
  | .unexpectedClosing => "unexpected \")\""
  | .unexpectedComma => "unexpected \",\""
  | .unexpectedConstant => "unexpected constant"
  | .unexpectedFunction => "unexpected function"
  | .unexpectedVariable => "unexpected variable"
  | .unknownCharacter => "unknown character"
  | .unmatchedParentheses => "unmatched \"()\""
  | .parity => "parity"
  | .illegalEscape c => "Illegal escape sequence: '\\" ++ String.singleton c ++ "'"

/-- What is wrong with the placeholders of a template, or with what they stand for. -/
inductive TemplateFault where
  | unclosedKey
  | missingKey (key : String)
  | widthTooLarge
  | widthBeyondWords
  | precisionTooLarge
  | precisionBeyondWords
  | tooManyDigits
  | unfinished
  | unknownConversion (c : Char) (index : Nat)
  | noCharacter
  deriving Repr, DecidableEq

/-- The wording of a fault of a template. A character outside ASCII is named by its code alone. -/
def TemplateFault.message : TemplateFault → String
  | .unclosedKey => "incomplete format key"
  | .missingKey key => Text.quote key
  | .widthTooLarge => "width too big"
  | .widthBeyondWords => "Python int too large to convert to C ssize_t"
  | .precisionTooLarge => "precision too big"
  | .precisionBeyondWords => "Python int too large to convert to C int"
  | .tooManyDigits => "precision too large"
  | .unfinished => "incomplete format"
  | .unknownConversion c index =>
    let shown := if 31 ≤ c.toNat && c.toNat < 127 then c else '?'
    "unsupported format character '" ++ String.singleton shown ++ "' (0x" ++
      String.ofList (Nat.toDigits 16 c.toNat) ++ ") at index " ++ toString index
  | .noCharacter => "%c arg not in range(0x110000)"

/-- Why an expression has no value. -/
inductive Error where
  | empty
  /-- The form is wrong; the column counts the characters read. -/
  | malformed (fault : FormFault) (column : Nat) (text : String)
  | numeral (error : NumeralError)
  /-- The text ends where a character must follow. -/
  | textEnded
  | unclosedComment
  | missingOperand
  | leftoverOperands
  | undefinedVariable (name : String)
  | notAFunction (name : String)
  | noMeaning (operator : String)
  | divisionByZero
  | floatDivisionByZero
  | moduloByZero
  | floatModuloByZero
  | zeroToNegativePower
  | zeroToComplexPower
  | complexPowerTooLarge
  | complexLengthTooLarge
  | complexDivisionByZero
  | integerTooLarge
  | quotientTooLarge
  | powerTooLarge
  | outsideDomain
  | outsideRange
  | infinityAsInteger
  | notANumberAsInteger
  | negativeFactorial
  | factorialTooLarge
  /-- A function that looks for an extreme was given nothing to look through. -/
  | nothingToCompare (function : String)
  | countTooLarge
  | repeatedTextTooLong
  | noRoom
  | comparisonTooDeep
  | spellingTooDeep
  | template (fault : TemplateFault)
  /-- A value of the wrong type. -/
  | wrongType
  deriving Repr, DecidableEq

/-- The wording of an error. -/
def Error.message : Error → String
  | .empty => "empty expression"
  | .malformed fault column text =>
    "parse error [column " ++ toString column ++ "]: " ++ fault.message ++ ", expression: " ++ text
  | .numeral error => error.message
  | .textEnded => "string index out of range"
  | .unclosedComment => "substring not found"
  | .missingOperand => "pop from empty list"
  | .leftoverOperands => "invalid Expression (parity)"
  | .undefinedVariable name => "undefined variable: " ++ name
  | .notAFunction name => name ++ " is not a function"
  | .noMeaning operator => Text.quote operator
  | .divisionByZero => "division by zero"
  | .floatDivisionByZero => "float division by zero"
  | .moduloByZero => "integer modulo by zero"
  | .floatModuloByZero => "float modulo"
  | .zeroToNegativePower => "0.0 cannot be raised to a negative power"
  | .zeroToComplexPower => "0.0 to a negative or complex power"
  | .complexPowerTooLarge => "complex exponentiation"
  | .complexLengthTooLarge => "absolute value too large"
  | .complexDivisionByZero => "complex division by zero"
  | .integerTooLarge => "int too large to convert to float"
  | .quotientTooLarge => "integer division result too large for a float"
  | .powerTooLarge => "(34, 'Numerical result out of range')"
  | .outsideDomain => "math domain error"
  | .outsideRange => "math range error"
  | .infinityAsInteger => "cannot convert float infinity to integer"
  | .notANumberAsInteger => "cannot convert float NaN to integer"
  | .negativeFactorial => "factorial() not defined for negative values"
  | .factorialTooLarge => "factorial() argument should not exceed 9223372036854775807"
  | .nothingToCompare function => function ++ "() arg is an empty sequence"
  | .countTooLarge => "cannot fit 'int' into an index-sized integer"
  | .repeatedTextTooLong => "repeated string is too long"
  | .noRoom => "MemoryError"
  | .comparisonTooDeep => "maximum recursion depth exceeded in comparison"
  | .spellingTooDeep => "maximum recursion depth exceeded while getting the repr of an object"
  | .template fault => fault.message
  | .wrongType => "wrong type"

end CharacterSheet.Arithmetic
