import TextAdventure.Key

/-!
# Containers

A container is an ordered list of stacks.  Units are added to the first stack of
their item, and a stack that is emptied disappears.
-/

namespace TextAdventure

structure Stack where
  item : Key
  quantity : UInt32
  deriving DecidableEq, Repr

/-- The sum of two counts, or the largest count if that is too much. -/
def addCounts (left right : UInt32) : UInt32 :=
  UInt32.ofNat (min (left.toNat + right.toNat) (UInt32.size - 1))

structure Container where
  contents : List Stack
  deriving DecidableEq, Repr

namespace Container

def empty : Container := ⟨[]⟩

def isEmpty (container : Container) : Bool :=
  container.contents.isEmpty

def quantityIn (item : Key) : List Stack → UInt32
  | [] => 0
  | stack :: rest => if stack.item = item then stack.quantity else quantityIn item rest

/-- The count of the first stack of an item, or zero. -/
def quantityOf (container : Container) (item : Key) : UInt32 :=
  quantityIn item container.contents

def holds (container : Container) (item : Key) : Bool :=
  0 < container.quantityOf item

def addTo (item : Key) (quantity : UInt32) : List Stack → List Stack
  | [] => [⟨item, quantity⟩]
  | stack :: rest =>
      if stack.item = item then
        ⟨item, addCounts stack.quantity quantity⟩ :: rest
      else
        stack :: addTo item quantity rest

/-- Add units to the item's stack, or as a new last stack. -/
def add (container : Container) (item : Key) (quantity : UInt32) : Container :=
  if quantity = 0 then container else ⟨addTo item quantity container.contents⟩

def removeFrom? (item : Key) (quantity : UInt32) : List Stack → Option (List Stack)
  | [] => if quantity = 0 then some [] else none
  | stack :: rest =>
      if stack.item = item then
        if stack.quantity < quantity then none
        else if stack.quantity = quantity then some rest
        else some (⟨item, stack.quantity - quantity⟩ :: rest)
      else
        (removeFrom? item quantity rest).map (stack :: ·)

/-- Remove exactly so many units, or refuse when fewer are held. -/
def remove? (container : Container) (item : Key) (quantity : UInt32) : Option Container :=
  (removeFrom? item quantity container.contents).map Container.mk

/-- Drop every stack of an item. -/
def removeAll (container : Container) (item : Key) : Container :=
  ⟨container.contents.filter fun stack => stack.item ≠ item⟩

/-- A container holding the pairs added one after another. -/
def ofPairs (pairs : List (Key × UInt32)) : Container :=
  pairs.foldl (fun container pair => container.add pair.1 pair.2) empty

end Container

end TextAdventure
