import ChatTerminal.Text.ClusterTable
/-!
# Clusters and columns

A text is cut into clusters, the characters a reader perceives; and a text takes so many columns
of a terminal. Wide characters take two columns, marks none, and a sequence that forms one emoji
takes two.
-/

namespace ChatTerminal.Text

/-- How a character joins its neighbours in a cluster. -/
inductive Joining where
  | carriageReturn
  | lineFeed
  | control
  | extender
  | joiner
  | regional
  | prepended
  | spacing
  | leading
  | vowel
  | trailing
  | openSyllable
  | closedSyllable
  | other
deriving Repr, DecidableEq

/-- Whether a syllable of Hangul has no trailing consonant. -/
def isOpenSyllable (n : Nat) : Bool := (n - 0xAC00) % 28 == 0

def joiningOf (c : Char) : Joining :=
  let n := c.toNat
  if 0x20 ≤ n && n < 0x7F then .other
  else if n == 0x0D then .carriageReturn
  else if n == 0x0A then .lineFeed
  else if n < 0xA0 then .control
  else if n < 0x300 then if n == 0xAD then .control else .other
  else if n == 0x200D then .joiner
  else if 0x1F1E6 ≤ n && n ≤ 0x1F1FF then .regional
  else if 0x1100 ≤ n && n ≤ 0x115F || 0xA960 ≤ n && n ≤ 0xA97C then .leading
  else if 0x1160 ≤ n && n ≤ 0x11A7 || 0xD7B0 ≤ n && n ≤ 0xD7C6 then .vowel
  else if 0x11A8 ≤ n && n ≤ 0x11FF || 0xD7CB ≤ n && n ≤ 0xD7FB then .trailing
  else if 0xAC00 ≤ n && n ≤ 0xD7A3 then
    if isOpenSyllable n then .openSyllable else .closedSyllable
  else if inRanges extenderRanges n then .extender
  else if inRanges spacingMarkRanges n then .spacing
  else if inRanges prependRanges n then .prepended
  else if inRanges formatRanges n then .control
  else .other

def isPictograph (c : Char) : Bool :=
  0xA9 ≤ c.toNat && inRanges pictographRanges c.toNat

/-- The marks that link consonants. -/
def isLinker (c : Char) : Bool :=
  [0x94D, 0x9CD, 0xACD, 0xB4D, 0xC4D, 0xD4D].contains c.toNat

def isLinkedConsonant (c : Char) : Bool :=
  0x900 ≤ c.toNat && inRanges linkedConsonantRanges c.toNat

/-- What the end of a cluster under way looks like. -/
structure ClusterEnd where
  last : Joining
  /-- The cluster ends with an odd number of regional indicators. -/
  oddRegional : Bool := false
  /-- The cluster ends with a pictograph and its extenders. -/
  pictograph : Bool := false
  /-- A joiner follows such a pictograph. -/
  joined : Bool := false
  /-- The cluster ends with a consonant and its marks. -/
  consonant : Bool := false
  /-- One of these marks is a linker. -/
  linked : Bool := false
deriving Repr, DecidableEq

namespace ClusterEnd

def start (c : Char) : ClusterEnd :=
  let kind := joiningOf c
  { last := kind, oddRegional := kind == .regional, pictograph := isPictograph c,
    consonant := isLinkedConsonant c }

/-- The end of the cluster after one more character. -/
def next (e : ClusterEnd) (c : Char) : ClusterEnd :=
  let kind := joiningOf c
  let mark := kind == .extender || kind == .joiner
  { last := kind
    oddRegional := kind == .regional && !e.oddRegional
    pictograph := isPictograph c || (e.pictograph && kind == .extender)
    joined := e.pictograph && kind == .joiner
    consonant := isLinkedConsonant c || (e.consonant && mark && c.toNat != 0x200C)
    linked := e.consonant && mark && c.toNat != 0x200C && (e.linked || isLinker c) }

def joins (e : ClusterEnd) (c : Char) : Bool :=
  let kind := joiningOf c
  let alone (k : Joining) : Bool := k == .control || k == .carriageReturn || k == .lineFeed
  if e.last == .carriageReturn && kind == .lineFeed then true
  else if alone e.last || alone kind then false
  else
    match e.last, kind with
    | _, .extender | _, .joiner | _, .spacing => true
    | .prepended, _ => true
    | .leading, .leading | .leading, .vowel | .leading, .openSyllable
    | .leading, .closedSyllable => true
    | .openSyllable, .vowel | .openSyllable, .trailing => true
    | .vowel, .vowel | .vowel, .trailing => true
    | .closedSyllable, .trailing | .trailing, .trailing => true
    | .regional, .regional => e.oddRegional
    | _, _ => (e.joined && isPictograph c) || (e.linked && isLinkedConsonant c)

end ClusterEnd

/-- The clusters of a text whose first cluster is under way. -/
def clustersFrom (soFar : List Char) (e : ClusterEnd) : List Char → List (List Char)
  | [] => [soFar.reverse]
  | c :: rest =>
    if e.joins c then clustersFrom (c :: soFar) (e.next c) rest
    else soFar.reverse :: clustersFrom [c] (.start c) rest

def clusters : List Char → List (List Char)
  | [] => []
  | c :: rest => clustersFrom [c] (.start c) rest

theorem flatten_clustersFrom (soFar : List Char) (e : ClusterEnd) (s : List Char) :
    (clustersFrom soFar e s).flatten = soFar.reverse ++ s := by
  induction s generalizing soFar e with
  | nil => simp [clustersFrom]
  | cons c rest ih =>
    rw [clustersFrom]
    split <;> simp [ih]

/-- Nothing of a text is lost in its clusters. -/
theorem flatten_clusters (s : List Char) : (clusters s).flatten = s := by
  cases s with
  | nil => rfl
  | cons c rest => simp [clusters, flatten_clustersFrom]

def charColumns (c : Char) : Nat :=
  let n := c.toNat
  if n < 0x300 then if n == 0xAD then 0 else 1
  else if inRanges zeroWidthRanges n then 0
  else if inRanges wideRanges n then 2
  else 1

/-- What follows a character, as far as it changes the columns the character takes. -/
inductive Following where
  | nothing
  | lineFeed
  /-- The selector of the emoji form; in front of a joined emoji if the flag is set. -/
  | emojiSelector (joined : Bool)
  | textSelector
  /-- A skin tone; in front of a joined emoji if the flag is set. -/
  | skinTone (joined : Bool)
  | emoji
  /-- A joiner and an emoji. -/
  | joinedEmoji
deriving Repr, DecidableEq

def isSkinTone (c : Char) : Bool := 0x1F3FB ≤ c.toNat && c.toNat ≤ 0x1F3FF

def isEmoji (c : Char) : Bool := 0x203C ≤ c.toNat && inRanges emojiRanges c.toNat

/-- The columns a character adds in front of what follows it. -/
def columnsBefore (c : Char) (f : Following) : Nat × Following :=
  let plain : Nat × Following :=
    (charColumns c, if isSkinTone c then .skinTone false else if isEmoji c then .emoji else .nothing)
  let selected : Bool :=
    (match f with
      | .emojiSelector _ => inRanges textEmojiRanges c.toNat || inRanges emojiRanges c.toNat
      | _ => false)
  if selected then (if f == .emojiSelector true then 0 else 2, .emoji)
  else if c == '\n' then (1, .lineFeed)
  else if c == '\r' && f == .lineFeed then (0, .nothing)
  else if c.toNat == 0xFE0F then (0, .emojiSelector (f == .joinedEmoji))
  else if c.toNat == 0xFE0E then (0, .textSelector)
  else if f == .textSelector && isEmoji c then (1, .nothing)
  else if c.toNat == 0x200D && f == .emoji then (0, .joinedEmoji)
  else if (f == .skinTone false || f == .skinTone true) && inRanges modifiableRanges c.toNat then
    (0, .emoji)
  else if f == .joinedEmoji && isEmoji c then
    (0, if isSkinTone c then .skinTone true else .emoji)
  else plain

/-- The columns of a text. A control character counts as one. -/
def columns (s : List Char) : Nat :=
  (s.foldr (fun c (total, f) =>
    let (more, f) := columnsBefore c f
    (total + more, f)) (0, .nothing)).1

end ChatTerminal.Text
