import DirectoryLogin.Pattern.Class

namespace DirectoryLogin

inductive WordEdge
  | boundary
  | noBoundary
  | start
  | finish
  | startHalf
  | finishHalf
  deriving DecidableEq, Inhabited

/-- A condition on a place between two characters, either of which may be missing. -/
inductive Look
  | textStart
  | textFinish
  | lineStart
  | lineFinish
  /-- As `lineStart`, where a carriage return, a line feed and the two together end a line. -/
  | lineStartAfterReturn
  | lineFinishAtReturn
  /-- An edge of a word, whose characters are those of all alphabets or those of ASCII. -/
  | word (unicode : Bool) (edge : WordEdge)
  deriving DecidableEq, Inhabited

namespace Look

def holds (before after : Option Char) : Look → Bool
  | textStart => before.isNone
  | textFinish => after.isNone
  | lineStart => before.isNone || before == some '\n'
  | lineFinish => after.isNone || after == some '\n'
  | lineStartAfterReturn =>
    before.isNone || before == some '\n' || (before == some '\r' && after != some '\n')
  | lineFinishAtReturn =>
    after.isNone || after == some '\r' || (after == some '\n' && before != some '\r')
  | word unicode edge =>
    let isWord := (if unicode then CharSet.unicodeWord else Text.asciiWord).contains
    let left := before.any isWord
    let right := after.any isWord
    match edge with
    | .boundary => left != right
    | .noBoundary => left == right
    | .start => !left && right
    | .finish => left && !right
    | .startHalf => !left
    | .finishHalf => !right

end Look

end DirectoryLogin
