import GoldenSuite.Shell.Word

set_option autoImplicit false

namespace GoldenSuite.Shell

open Text (Octets)

namespace Reading

mutual

def pieces : Nat → Place → Bool → Nat → Reading Word
  | 0, _, _, _ => fail .tooDeep
  | fuel + 1, place, isBraced, depth => do
      let run ← plainRun (isPlain place isBraced)
      if !run.isEmpty then
        return .text place.isQuoted run :: (← pieces fuel place isBraced depth)
      match ← peek with
      | none =>
          match endFault? place isBraced with
          | some fault => fail fault
          | none => return []
      | some c =>
          let literal : Reading Word := do
            drop
            return .text place.isQuoted [c] :: (← pieces fuel place isBraced depth)
          match c with
          | '\\' =>
              drop
              let piece ← afterBackslash place isBraced
              return piece :: (← pieces fuel place isBraced depth)
          | '$' =>
              drop
              let found ← dollar fuel place
              return found ++ (← pieces fuel place isBraced depth)
          | '`' =>
              drop
              let piece ← backquote fuel place
              return piece :: (← pieces fuel place isBraced depth)
          | '}' => return []
          | '\'' =>
              drop
              let body ← singleQuoted
              return .text true body :: (← pieces fuel place isBraced depth)
          | '"' =>
              if place = .arithmetic then
                drop
                pieces fuel place isBraced depth
              else if place = .quoted && !isBraced then return []
              else
                drop
                let body ← pieces fuel .quoted false 0
                drop
                return quotedWord (joined body) ++ (← pieces fuel place isBraced depth)
          | '(' =>
              if place = .arithmetic then
                drop
                return .text true [c] :: (← pieces fuel place isBraced (depth + 1))
              else return []
          | ')' =>
              if place = .arithmetic then
                if 0 < depth then
                  drop
                  return .text true [c] :: (← pieces fuel place isBraced (depth - 1))
                drop
                if ← mark? ')' then return []
                return .text true [c] :: (← pieces fuel place isBraced depth)
              else return []
          | _ => if place = .plain && !isBraced then return [] else literal

def dollar : Nat → Place → Reading Word
  | 0, _ => fail .tooDeep
  | fuel + 1, place => do
      let isQuoted := place.isQuoted
      match ← peek with
      | some '(' =>
          drop
          if ← mark? '(' then
            let expression ← pieces fuel .arithmetic false 0
            return [.arithmetic isQuoted (joined expression)]
          let waiting := (← get).pending
          modify fun cursor => { cursor with pending := [] }
          let body ← list fuel false true
          let found ← token fuel false false false
          if !found.isSign ")" then fail (.unexpected found.name (some "\")\""))
          modify fun cursor => { cursor with pending := waiting }
          return [.output isQuoted body]
      | some '{' =>
          drop
          braced fuel place
      | some c =>
          if startsName c then return [.parameter isQuoted (← manyOf inName) .value]
          else if isSpecial c then
            drop
            return [.parameter isQuoted [c] .value]
          else return [.text isQuoted ['$']]
      | none => return [.text isQuoted ['$']]

def braced : Nat → Place → Reading Word
  | 0, _ => fail .tooDeep
  | fuel + 1, place => do
      let isQuoted := place.isQuoted
      let inner := if place = .arithmetic then .quoted else place
      match ← bracedName with
      | (none, _) =>
          let _ ← pieces fuel inner true 0
          drop
          return [.parameter isQuoted [] .senseless]
      | (some name, true) =>
          let isClosed := (← peek) = some '}'
          let _ ← pieces fuel inner true 0
          drop
          return [.parameter isQuoted name (if isClosed then .length else .senseless)]
      | (some name, false) =>
          if ← mark? '}' then return [.parameter isQuoted name .value]
          match ← useMark with
          | none =>
              let _ ← pieces fuel inner true 0
              drop
              return [.parameter isQuoted name .senseless]
          | some (use, isPattern) =>
              let word ← pieces fuel (if isPattern then .plain else inner) true 0
              drop
              return [.parameter isQuoted name (use (joined word))]

def backquote : Nat → Place → Reading Piece
  | 0, _ => fail .tooDeep
  | fuel + 1, place => do
      let text ← backquoted place.isQuoted fuel
      let outer ← get
      set { outer with rest := text, line := 1, replaced := [], pending := [], returned := none }
      let body ← list fuel false true
      modify fun inner => { outer with documents := inner.documents }
      return .output place.isQuoted body

def documents : Nat → Reading Unit
  | 0 => fail .tooDeep
  | fuel + 1 => do
      match (← get).pending with
      | [] => return
      | first :: others =>
          modify fun cursor => { cursor with pending := others }
          let text ← documentText first
          if first.isExpanded then
            let outer ← get
            set { outer with rest := text, line := outer.line - text.count '\n' - 1, pending := [] }
            let word ← pieces fuel .document false 0
            modify fun inner => { outer with documents := inner.documents }
            setDocument first.number (joined word)
          else setDocument first.number [.text true text]
          documents fuel

def rawToken : Nat → Reading Token
  | 0 => fail .tooDeep
  | fuel + 1 => do
      if let some found := (← get).returned then
        modify fun cursor => { cursor with returned := none }
        return found
      skipBlanks (← get).rest.length.succ
      match ← peek with
      | none => return .finish
      | some c =>
          if let some found := ← sign? c then return found
          let word := joined (← pieces fuel .plain false 0)
          let after ← peek
          if after = some '<' || after = some '>' then
            if let some stream? := streamOf? word then return ← redirectionOf stream?
          return .word word

/-- The next token, after newlines if they do not matter. A word may be a keyword, or a name that
stands for other text. -/
def token : Nat → Bool → Bool → Bool → Reading Token
  | 0, _, _, _ => fail .tooDeep
  | fuel + 1, skipsLines, seesKeywords, seesAliases => do
      let found ← rawToken fuel
      match found with
      | .newline =>
          if skipsLines then
            documents fuel
            token fuel skipsLines seesKeywords seesAliases
          else return found
      | .word word =>
          let seesAliases := seesAliases || (← get).isReplaceable
          modify fun cursor => { cursor with isReplaceable := false }
          match bareText? word with
          | none => return found
          | some text =>
              if seesKeywords then
                if let some name := keywords.find? fun name => name.toList = text then
                  return .keyword name
              let cursor ← get
              if seesAliases && !cursor.replaced.any (·.1 = text) then
                if let some value := cursor.aliases.lookup text then
                  replace text value
                  return ← token fuel skipsLines seesKeywords seesAliases
              return found
      | _ => return found

/-- Commands up to the end of the line, or of what they are part of. At the end of the script there
may be none. -/
def list : Nat → Bool → Bool → Reading Command
  | 0, _, _ => fail .tooDeep
  | fuel + 1, isLine, mayEnd => do
      let found ← token fuel (!isLine) true true
      match found with
      | .newline =>
          documents fuel
          return .nothing
      | .finish =>
          documents fuel
          unread .finish
          return .nothing
      | _ =>
          unread found
          if mayEnd && !isLine && found.endsList then return .nothing
          let first ← andOr fuel
          let after ← token fuel false false false
          let continued (command : Command) : Reading Command := do
            match ← list fuel isLine true with
            | .nothing => return command
            | rest => return .sequence command rest
          match after with
          | .sign "&" => continued first.behind
          | .sign ";" => continued first
          | .newline | .finish =>
              unread after
              continued first
          | _ =>
              if isLine then fail (.unexpected after.name none)
              unread after
              return first

def andOr : Nat → Reading Command
  | 0 => fail .tooDeep
  | fuel + 1 => do andOrAfter fuel (← pipeline fuel)

def andOrAfter : Nat → Command → Reading Command
  | 0, _ => fail .tooDeep
  | fuel + 1, first => do
      let found ← token fuel false false false
      match found with
      | .sign "&&" => andOrAfter fuel (.both first (← pipelineAfter fuel))
      | .sign "||" => andOrAfter fuel (.either first (← pipelineAfter fuel))
      | _ =>
          unread found
          return first

def pipelineAfter : Nat → Reading Command
  | 0 => fail .tooDeep
  | fuel + 1 => do
      unread (← token fuel true true true)
      pipeline fuel

def pipeline : Nat → Reading Command
  | 0 => fail .tooDeep
  | fuel + 1 => do
      let found ← token fuel false true true
      if found.isKeyword "!" then
        unread (← token fuel false true true)
        return .negated (← piped fuel)
      unread found
      piped fuel

def piped : Nat → Reading Command
  | 0 => fail .tooDeep
  | fuel + 1 => do
      let first ← command fuel
      let found ← token fuel false false false
      if found.isSign "|" then return .piped (first :: (← sinks fuel))
      unread found
      return first

def sinks : Nat → Reading (List Command)
  | 0 => fail .tooDeep
  | fuel + 1 => do
      unread (← token fuel true true true)
      let first ← command fuel
      let found ← token fuel false false false
      if found.isSign "|" then return first :: (← sinks fuel)
      unread found
      return [first]

def expect : Nat → String → Reading Unit
  | 0, _ => fail .tooDeep
  | fuel + 1, wanted => do
      let found ← token fuel false false false
      if found.isKeyword wanted || found.isSign wanted then return
      fail (.unexpected found.name (some ("\"" ++ wanted ++ "\"")))

def command : Nat → Reading Command
  | 0 => fail .tooDeep
  | fuel + 1 => do
      let line := (← get).line
      let found ← token fuel false false false
      let ended (body : Command) (closing : String) : Reading Command := do
        expect fuel closing
        redirected fuel line body
      match found with
      | .keyword "if" => ended (← conditional fuel) "fi"
      | .keyword "while" | .keyword "until" =>
          let test ← list fuel false false
          expect fuel "do"
          let body ← list fuel false false
          ended (.loop (found.isKeyword "until") test body) "done"
      | .keyword "for" => ended (← each fuel line) "done"
      | .keyword "case" => redirected fuel line (← choice fuel line)
      | .keyword "\x7b" => ended (← list fuel false false) closingBrace
      | .sign "(" => ended (.apart line (← list fuel false false) []) ")"
      | .word _ | .redirection _ | .document .. =>
          unread found
          simple fuel (← get).line [] [] []
      | _ => fail (.unexpected found.name none)

def conditional : Nat → Reading Command
  | 0 => fail .tooDeep
  | fuel + 1 => do
      let test ← list fuel false false
      expect fuel "then"
      let body ← list fuel false false
      let found ← token fuel false false false
      if found.isKeyword "elif" then return .conditional test body (← conditional fuel)
      else if found.isKeyword "else" then
        return .conditional test body (← list fuel false false)
      unread found
      return .conditional test body .nothing

def each : Nat → Nat → Reading Command
  | 0, _ => fail .tooDeep
  | fuel + 1, line => do
      let name ← match ← token fuel false false false with
        | .word word =>
            match bareText? word with
            | some text => if isName text then pure text else fail .badLoopName
            | none => fail .badLoopName
        | _ => fail .badLoopName
      let found ← token fuel true true true
      let words ← if found.isKeyword "in" then do
          let (words, ending) ← words fuel
          match ending with
          | .newline | .sign ";" => pure words
          | _ => fail (.unexpected ending.name none)
        else do
          if !found.isSign ";" then unread found
          pure [allArguments]
      let found ← token fuel true true true
      if !found.isKeyword "do" then fail (.unexpected found.name (some "\"do\""))
      let body ← list fuel false false
      return .each line name words body

def words : Nat → Reading (List Word × Token)
  | 0 => fail .tooDeep
  | fuel + 1 => do
      match ← token fuel false false false with
      | .word word =>
          let (rest, ending) ← words fuel
          return (word :: rest, ending)
      | ending => return ([], ending)

def choice : Nat → Nat → Reading Command
  | 0, _ => fail .tooDeep
  | fuel + 1, line => do
      let found ← token fuel false false false
      match found with
      | .word subject =>
          let found ← token fuel true true true
          if !found.isKeyword "in" then fail (.unexpected found.name (some "\"in\""))
          return .choice line subject (← branches fuel)
      | _ => fail (.unexpected found.name (some "word"))

def branches : Nat → Reading (List (List Word × Command))
  | 0 => fail .tooDeep
  | fuel + 1 => do
      let found ← token fuel true true false
      if found.isKeyword "esac" then return []
      let first ← if found.isSign "(" then token fuel false false false else pure found
      let patterns ← patterns fuel first
      let body ← list fuel false true
      let ending ← token fuel true true false
      if ending.isKeyword "esac" then return [(patterns, body)]
      if !ending.isSign ";;" then fail (.unexpected ending.name (some "\";;\""))
      return (patterns, body) :: (← branches fuel)

def patterns : Nat → Token → Reading (List Word)
  | 0, _ => fail .tooDeep
  | fuel + 1, first => do
      let word := match first with
        | .word word => word
        | .keyword name => [.text false name.toList]
        | _ => []
      let found ← token fuel false false false
      if found.isSign "|" then return word :: (← patterns fuel (← token fuel false false false))
      if !found.isSign ")" then fail (.unexpected found.name (some "\")\""))
      return [word]

def target : Nat → Token → Reading Redirection
  | 0, _ => fail .tooDeep
  | fuel + 1, found => do
      match found with
      | .document stream isTrimmed =>
          skipBlanks (← get).rest.length.succ
          match ← peek with
          | some c =>
              if endsWord c then
                let found ← rawToken fuel
                fail (.unexpected found.name none)
              let (mark, isQuoted) ← documentMark fuel false
              return .document stream (← announce mark isTrimmed !isQuoted)
          | none => fail (.unexpected Token.finish.name none)
      | .redirection make =>
          match ← token fuel false false false with
          | .word word => return make word
          | other => fail (.unexpected other.name none)
      | other => fail (.unexpected other.name none)

def redirected : Nat → Nat → Command → Reading Command
  | 0, _, _ => fail .tooDeep
  | fuel + 1, line, body => do
      match ← redirections fuel with
      | [] => return body
      | found =>
          match body with
          | .apart line body _ => return .apart line body found
          | _ => return .redirected line body found

def redirections : Nat → Reading (List Redirection)
  | 0 => fail .tooDeep
  | fuel + 1 => do
      let found ← token fuel false true true
      match found with
      | .redirection _ | .document .. =>
          let first ← target fuel found
          return first :: (← redirections fuel)
      | _ =>
          unread found
          return []

def simple : Nat → Nat → List (Octets × Word) → List Word → List Redirection → Reading Command
  | 0, _, _, _, _ => fail .tooDeep
  | fuel + 1, line, settings, words, redirections => do
      let found ← token fuel false false words.isEmpty
      match found with
      | .word word =>
          match if words.isEmpty then setting? word else none with
          | some setting => simple fuel line (setting :: settings) words redirections
          | none => simple fuel line settings (word :: words) redirections
      | .redirection _ | .document .. =>
          let redirection ← target fuel found
          simple fuel line settings words (redirection :: redirections)
      | _ =>
          match found.isSign "(", words, settings, redirections with
          | true, [word], [], [] =>
              let closing ← token fuel false false false
              if !closing.isSign ")" then fail (.unexpected closing.name (some "\")\""))
              match bareText? word with
              | some name =>
                  if !isName name || specialBuiltins.contains (String.ofList name) then
                    fail .badFunctionName
                  unread (← token fuel true true true)
                  return .function name (← command fuel)
              | none => fail .badFunctionName
          | _, _, _, _ =>
              unread found
              return .simple line settings.reverse words.reverse redirections.reverse

end

def fuelFor (cursor : Cursor) : Nat :=
  let names := cursor.aliases.foldl (fun sum entry => sum + entry.2.length) 0
  32 * (cursor.rest.length + 2) * (names + 1) + 1000

def nextLine (cursor : Cursor) : Except (Nat × SyntaxFault) (Option Command × Bool × Cursor) := do
  let cursor := { cursor with returned := none, isReplaceable := false, pending := [] }
  let fuel := fuelFor cursor
  let isAtEnd (cursor : Cursor) : Bool := cursor.returned matches some .finish
  let (found, cursor) ← (list fuel true false).run cursor
  let isEnd := isAtEnd cursor
  return (if isEnd && found.isNothing then none else some found, isEnd, cursor)

def textWord (text : Octets) : Except (Nat × SyntaxFault) Word := do
  let cursor : Cursor := { rest := text }
  return joined (← (pieces (fuelFor cursor) .document false 0).run cursor).1

end Reading

end GoldenSuite.Shell
