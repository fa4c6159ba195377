import Legible.Text.Escaped
import Legible.Text.Width

/-!
# A page of text in the making

A page knows the column it has reached and how deep it is indented. A line break is only noted when
it is asked for; it is written, with the indentation of the new line, when something follows it.
-/

namespace Legible

structure Page where
  /-- Written once per level at the start of a line. -/
  indentUnit : String
  buffer : String := ""
  depth : Nat := 0
  column : Nat := 0
  line : Nat := 1
  /-- A line break was asked for and is not written yet. -/
  pending : Bool := false
deriving DecidableEq

namespace Page

/-- The width of indentation, with a tab worth four columns. -/
def indentWidth (cs : List Char) : Nat :=
  match cs with
  | [] => 0
  | c :: rest => (if c = '\t' then 4 else 1) + indentWidth rest

def indentBy (page : Page) : Nat → Page
  | 0 => page
  | n + 1 =>
    indentBy { page with
      buffer := page.buffer ++ page.indentUnit
      column := page.column + indentWidth page.indentUnit.toList } n

/-- Writes the noted line break. The very first line of a page needs none. -/
def flush (page : Page) : Page :=
  if page.pending then
    if page.buffer = "" then
      indentBy { page with pending := false, column := 0 } page.depth
    else
      indentBy { page with
        pending := false
        buffer := page.buffer.push '\n'
        line := page.line + 1
        column := 0 } page.depth
  else page

/-- Notes a line break; the one noted before becomes an empty line. -/
def newLine (page : Page) : Page :=
  if page.pending then { page with buffer := page.buffer.push '\n', line := page.line + 1 }
  else { page with pending := true }

/-- Writes punctuation, whose width is its length. -/
def token (page : Page) (t : String) : Page :=
  if t = "" then page
  else
    let page := page.flush
    { page with buffer := page.buffer ++ t, column := page.column + t.length }

/-- Writes one character of running text; carriage returns leave no trace but open the line. -/
def char (page : Page) (c : Char) : Page :=
  if c = '\n' then page.newLine
  else
    let page := page.flush
    if c = '\r' then page
    else { page with buffer := page.buffer.push c, column := page.column + Text.charWidth c }

/-- Writes running text, whose line breaks start new lines of the page. -/
def text (page : Page) (s : String) : Page := s.toList.foldl char page

def writeLine (page : Page) (s : String) : Page := (page.text s).newLine

def indent (page : Page) : Page := { page with depth := page.depth + 1 }

def restoreDepth (page earlier : Page) : Page := { page with depth := earlier.depth }

def finish (page : Page) : String := page.buffer

inductive TokenFault where
  | notAscii (t : String)
  | lineBreak (t : String)

def TokenFault.message : TokenFault → String
  | .notAscii t => "Token must be ASCII only, got: " ++ Text.escaped t
  | .lineBreak t =>
    "Token cannot contain line breaks, use write_line instead: " ++ Text.escaped t

def checkToken (t : String) : Except TokenFault Unit :=
  if t.toList.any fun c => decide (0x80 ≤ c.toNat) then .error (.notAscii t)
  else if t.toList.any fun c => c == '\n' || c == '\r' then .error (.lineBreak t)
  else .ok ()

end Page

end Legible
