import DesignGraph.Screen.CellWidth
import DesignGraph.Screen.EmojiNames
import DesignGraph.Text.Blank
import DesignGraph.Text.Hex
import DesignGraph.Text.LowerCase
/-!
# Emoji codes

A name between two colons, such as `:heart:`, stands for an emoji. Names are read in lower case,
and may ask for the form as text or as an emoji behind a hyphen. What names no emoji stays as it
is.

## Main definitions

* `DesignGraph.Screen.emoji?` — the emoji with a name.
* `DesignGraph.Screen.showEmoji` — a text with its emoji.
-/

namespace DesignGraph.Screen

/-! ## Entries -/

/-- What a row says about a name. -/
structure EmojiEntry where
  name : List Char
  /-- Whether the emoji comes in skin tones. -/
  isToned : Bool
  /-- What stands behind the sign. -/
  form : List Char

/-- The parts of a text between separators. -/
def partsAt (separator : Char) : List Char → List (List Char)
  | [] => [[]]
  | c :: rest =>
    match partsAt separator rest with
    | part :: parts => if c = separator then [] :: part :: parts else (c :: part) :: parts
    | [] => [[c]]

/-- An entry of a row. -/
def EmojiEntry.ofText (text : List Char) : EmojiEntry :=
  let isSign (c : Char) : Bool := c == '=' || c == '~'
  let signed := text.dropWhile fun c => !isSign c
  ⟨text.takeWhile fun c => !isSign c, signed.head? == some '~', signed.drop 1⟩

/-- The entries of rows. -/
def entriesOf (rows : List String) : List EmojiEntry :=
  rows.flatMap fun row => (partsAt ' ' row.toList).map .ofText

/-- The entries of emoji. -/
def emojiEntries : List EmojiEntry :=
  entriesOf emojiRows

/-- The entries of countries. -/
def flagEntries : List EmojiEntry :=
  entriesOf flagRows

/-! ## Emoji by name -/

/-- The characters of an emoji, from their code points. -/
def EmojiEntry.chars (entry : EmojiEntry) : List Char :=
  (partsAt '-' entry.form).map fun ds => Char.ofNat ((Hex.number? ds).getD 0)

/-- The character for a letter in flags. -/
def regionLetter (c : Char) : Char :=
  Char.ofNat (0x1f1e6 + (c.toNat - 'A'.toNat))

/-- The ends of names that ask for a skin tone, with the tones from the lightest on. -/
def skinTones : List (List Char × Char) :=
  [("_light_skin_tone".toList, Char.ofNat 0x1f3fb),
   ("_medium-light_skin_tone".toList, Char.ofNat 0x1f3fc),
   ("_medium_skin_tone".toList, Char.ofNat 0x1f3fd),
   ("_medium-dark_skin_tone".toList, Char.ofNat 0x1f3fe),
   ("_dark_skin_tone".toList, Char.ofNat 0x1f3ff)]

/-- An emoji in a skin tone: the tone stands behind the first character, where it takes the place
of a selector. -/
def withTone (tone : Char) : List Char → List Char
  | [] => []
  | c :: rest => c :: tone :: (if rest.head? = some emojiSelector then rest.drop 1 else rest)

/-- A text without the given end. -/
def withoutEnd? (ending cs : List Char) : Option (List Char) :=
  if ending.isSuffixOf cs then some (cs.take (cs.length - ending.length)) else none

/-- The emoji with the given name in the rows. -/
def listed? (name : List Char) : Option (List Char) :=
  (emojiEntries.find? (·.name == name)).map EmojiEntry.chars

/-- The flag of a country. -/
def flag? (name : List Char) : Option (List Char) :=
  let start := "flag_for_".toList
  let country := if start.isPrefixOf name then name.drop start.length else name
  (flagEntries.find? (·.name == country)).map fun entry => entry.form.map regionLetter

/-- The emoji that a name with a skin tone asks for. -/
def toned? (name : List Char) : Option (List Char) :=
  skinTones.findSome? fun (ending, tone) =>
    (withoutEnd? ending name).bind fun base =>
      (emojiEntries.find? fun entry => entry.isToned && entry.name == base).map fun entry =>
        withTone tone entry.chars

/-- The emoji with a name. -/
def emoji? (name : List Char) : Option (List Char) :=
  ((listed? name).or (flag? name)).or (toned? name)

/-! ## Codes in texts -/

/-- The emoji that a code asks for, with the selector of the form that stands behind a hyphen. -/
def codedEmoji? (code : List Char) : Option (List Char) :=
  match withoutEnd? "-emoji".toList code, withoutEnd? "-text".toList code with
  | some name, _ => (emoji? (lowerCase name)).map (· ++ [emojiSelector])
  | none, some name => (emoji? (lowerCase name)).map (· ++ ['\ufe0e'])
  | none, none => emoji? (lowerCase code)

/-- A text with its emoji; `code` holds what stands behind a colon that is not closed yet. -/
def showEmojiAfter : (code : Option (List Char)) → List Char → List Char
  | none, [] => []
  | some code, [] => ':' :: code
  | none, c :: rest =>
    if c = ':' then showEmojiAfter (some []) rest else c :: showEmojiAfter none rest
  | some code, c :: rest =>
    if c = ':' then ((codedEmoji? code).getD (':' :: code ++ [':'])) ++ showEmojiAfter none rest
    else if isWhite c then ':' :: code ++ c :: showEmojiAfter none rest
    else showEmojiAfter (some (code ++ [c])) rest

/-- A text with its emoji. -/
def showEmoji (cs : List Char) : List Char :=
  showEmojiAfter none cs

end DesignGraph.Screen
