import Mathlib.Data.List.Sort

/-!
# Whot cards

A card is its suit times a hundred and its number.  The deck is a slice with the index of the first
card that has not been dealt.
-/

namespace Yola.Whot

abbrev Card := Int

def suitMask : Int := 100
def whotCard : Card := 620

def holdOnCardNumber : Int := 1
def pickTwoCardNumber : Int := 2
def suspendCardNumber : Int := 8
def marketCardNumber : Int := 14
def whotCardNumber : Int := 20

def suitCircle : Int := 1
def suitStart : Int := 5

def oneDeck : List Card :=
  [101, 102, 103, 104, 105, 107, 108, 110, 111, 112, 113, 114,
   201, 202, 203, 204, 205, 207, 208, 210, 211, 212, 213, 214,
   301, 302, 303, 305, 307, 310, 311, 313, 314,
   401, 402, 403, 405, 407, 410, 411, 413, 414,
   501, 502, 503, 504, 505, 507, 508,
   whotCard, whotCard, whotCard, whotCard, whotCard]

def suit (card : Card) : Int := card.tdiv suitMask

def number (card : Card) : Int := card.tmod suitMask

def newDeclareWhot (suit card : Int) : Card := suit * suitMask + number card

def isWhotCard (card : Card) : Bool := card = whotCard

def isSpecialCard (card : Card) : Bool :=
  if isWhotCard card then true
  else
    (suitCircle ≤ suit card && suit card ≤ suitStart) &&
      (number card = holdOnCardNumber || number card = pickTwoCardNumber ||
        number card = suspendCardNumber || number card = marketCardNumber)

def validBottom (card : Card) : Bool := !isSpecialCard card

def sortCards (cards : List Card) : List Card := cards.insertionSort (· ≤ ·)

structure GameCards where
  index : Nat
  cards : List Card
  bottom : List Card
deriving DecidableEq

namespace GameCards

def new : GameCards := ⟨0, oneDeck, []⟩

/-- `Shuffle`, into the given order. -/
def shuffle (order : List Card) (g : GameCards) : GameCards := { g with index := 0, cards := order }

/-- The cards that have not been dealt. -/
def getCards (g : GameCards) : List Card := g.cards.drop g.index

def dispatchCards (k : Nat) (g : GameCards) : List Card × GameCards :=
  (g.getCards.take k, { g with index := min (g.index + k) g.cards.length })

def getCardNum (g : GameCards) : Nat := g.cards.length - g.index

def isEmpty (g : GameCards) : Bool := g.cards.length ≤ g.index

/-- The first card that can lie at the bottom comes to the top. -/
def raiseBottom (g : GameCards) : GameCards :=
  match g.getCards.findIdx? validBottom with
  | none => g
  | some k =>
      { g with
        cards := (g.cards.set g.index (g.cards.getD (g.index + k) 0)).set (g.index + k)
          (g.cards.getD g.index 0) }

def setBottom (g : GameCards) : List Card × GameCards :=
  let (bottom, g) := g.raiseBottom.dispatchCards 1
  (bottom, { g with bottom := bottom })

end GameCards

end Yola.Whot
