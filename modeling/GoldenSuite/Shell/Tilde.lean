import GoldenSuite.Shell.Binding

set_option autoImplicit false

namespace GoldenSuite.Shell

open Text (Octets)

namespace Tilde

def home? (settings : Settings) (name : Octets) : Option Octets :=
  if name.isEmpty then settings.value? "HOME"
  else if name = "root".toList then some "/root".toList else none

/-- A text with a tilde at its front replaced. The text may go on with what is not known yet. -/
def atFront (settings : Settings) (stops : Char → Bool) (isWhole : Bool) (text : Octets) : Word :=
  match text with
  | '~' :: rest =>
      let name := rest.takeWhile fun c => !stops c
      if name.length = rest.length && !isWhole then [.text false text]
      else match home? settings name with
        | some home => [.text true home, .text false (rest.drop name.length)]
        | none => [.text false text]
  | _ => [.text false text]

def afterColons (settings : Settings) (isWhole : Bool) (text : Octets) : Word :=
  let parts := text.splitOnP (· = ':')
  let last := parts.length - 1
  let shown := parts.zipIdx.map fun (part, index) =>
    atFront settings (· = '/') (isWhole || index < last) part
  (shown.intersperse [.text false [':']]).flatten

def expanded (settings : Settings) (isValue : Bool) (word : Word) : Word :=
  match word with
  | .text false text :: rest =>
      let isWhole := rest.isEmpty
      let first :=
        if isValue then afterColons settings isWhole text
        else atFront settings (· = '/') isWhole text
      first ++ if isValue then rest.flatMap later else rest
  | _ => if isValue then word.flatMap later else word
where
  later : Piece → Word
    | .text false text =>
        let front := text.takeWhile (· ≠ ':')
        match text.drop front.length with
        | [] => [.text false text]
        | rest => .text false front :: afterColons settings true rest
    | piece => [piece]

end Tilde

end GoldenSuite.Shell
