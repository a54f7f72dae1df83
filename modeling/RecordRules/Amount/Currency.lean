import RecordRules.Text.Blank
import RecordRules.Text.Case

/-
  Currency marks around an amount.

  Main declarations:
    * `Amount.currencySymbols` and `Amount.currencyCodes`
    * `Amount.splitCurrency`, the currency of a text and what is
      left of the text
-/

namespace RecordRules

namespace Amount

open Text

/- Currency symbols with their codes, longer symbols first. -/
def currencySymbols : List (String × String) :=
  [ ("NZ$", "NZD")
  , ("HK$", "HKD")
  , ("R$", "BRL")
  , ("A$", "AUD")
  , ("C$", "CAD")
  , ("$", "USD")
  , ("€", "EUR")
  , ("£", "GBP")
  , ("¥", "JPY")
  , ("₹", "INR") ]

/- The currency codes that may stand next to an amount. -/
def currencyCodes : List String :=
  [ "USD", "EUR", "GBP", "JPY", "INR", "AUD", "CAD", "NZD", "CHF"
  , "SEK", "NOK", "DKK", "SGD", "HKD", "CNY", "BRL", "MXN" ]

/-
  What is left of a text once a mark is taken from its start, or
  else from its end. The mark is looked for in `seen`, another
  spelling of the text, and as many characters of the text go.
-/
def withoutMark?
    (mark : List Char)
    (seen cs : List Char) : Option (List Char) :=
  if mark.isPrefixOf seen then
    some (strip (cs.drop mark.length))
  else if mark.isSuffixOf seen then
    some (strip (cs.take (cs.length - mark.length)))
  else
    none

/- The first currency symbol at either end of a text. -/
def splitSymbol?
    (cs : List Char) : Option (String × List Char) :=
  currencySymbols.findSome? fun (symbol, code) =>
    (withoutMark? symbol.toList cs cs).map (code, ·)

/- The first currency code at either end, in letters of any case. -/
def splitCode?
    (cs : List Char) : Option (String × List Char) :=
  let seen := upper cs
  currencyCodes.findSome? fun code =>
    (withoutMark? code.toList seen cs).map (code, ·)

/-
  The currency that a text names at one of its ends, symbols before
  codes, with the rest of the text.
-/
def splitCurrency
    (cs : List Char) : Option String × List Char :=
  let text := strip cs
  match (splitSymbol? text).or (splitCode? text) with
  | some (code, rest) => (some code, rest)
  | none => (none, text)

end Amount

end RecordRules
