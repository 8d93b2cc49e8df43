-- The tiers of the libraries that may run inside other processes. They start
-- from the same-process NDK, which loads drivers, and from the predefined
-- HALs, which are these drivers. What the two need, directly or not, makes
-- the other tiers. The NDK itself is never entered, and low-level NDK
-- libraries are in no tier.
import ImageTiers.Linker
import ImageTiers.Reference

namespace ImageTiers

structure Tiers where
  /-- Predefined HALs. -/
  spHal : List LibId
  /-- What HALs need and the vendor has to bring. -/
  spHalDep : List LibId
  /-- What HALs need and the reference image has. -/
  vndkSpHal : List LibId
  /-- The same-process NDK. -/
  spNdk : List LibId
  /-- What the same-process NDK needs. -/
  spNdkIndirect : List LibId
  /-- What both need and the reference image has. -/
  vndkSpBoth : List LibId
  deriving DecidableEq

namespace Tiers

/-- The tiers with their names, in the order of reports. -/
def named (t : Tiers) : List (String × List LibId) :=
  [("sp_hal", t.spHal), ("sp_hal_dep", t.spHalDep), ("vndk_sp_hal", t.vndkSpHal),
    ("sp_ndk", t.spNdk), ("sp_ndk_indirect", t.spNdkIndirect), ("vndk_sp_both", t.vndkSpBoth)]

/-- Keeps in every tier only the libraries with `keep`. -/
def filter (keep : LibId → Bool) (t : Tiers) : Tiers where
  spHal := t.spHal.filter keep
  spHalDep := t.spHalDep.filter keep
  vndkSpHal := t.vndkSpHal.filter keep
  spNdk := t.spNdk.filter keep
  spNdkIndirect := t.spNdkIndirect.filter keep
  vndkSpBoth := t.vndkSpBoth.filter keep

def counts (t : Tiers) : TierCounts where
  spHal := t.spHal.length
  spHalDep := t.spHalDep.length
  vndkSpHal := t.vndkSpHal.length
  spNdk := t.spNdk.length
  spNdkIndirect := t.spNdkIndirect.length
  vndkSpBoth := t.vndkSpBoth.length

end Tiers

namespace Linker

/-- A system library that the reference image also has, as `oracle` tells. -/
def isGeneric (l : Linker) (oracle : Library → RefClass) (id : LibId) : Bool :=
  (l.image.node? id).any fun node => node.isSystem && oracle node.toLibrary ≠ .newLib

/-- The tiers of a linked image. `oracle` compares a library with the reference
image. -/
def tiers (l : Linker) (oracle : Library → RefClass) : Tiers :=
  let spNdk := l.spNdk
  let spNdkNeeds := (l.image.depsClosure l.isNdk spNdk).filter (!spNdk.contains ·)
  let spHal := l.spHal
  let spHalNeeds := (l.image.depsClosure l.isNdk spHal).filter (!spHal.contains ·)
  let generic := spHalNeeds.filter (l.isGeneric oracle)
  let both := spNdkNeeds.filter generic.contains
  let tiers : Tiers :=
    { spHal
      spHalDep := spHalNeeds.filter (!l.isGeneric oracle ·)
      vndkSpHal := generic.filter (!both.contains ·)
      spNdk
      spNdkIndirect := spNdkNeeds.filter (!both.contains ·)
      vndkSpBoth := both }
  tiers.filter (!l.isLlNdk ·)

end Linker

/-- What the computing of tiers reports. -/
def Tiers.log (t : Tiers) : Log := [.tiers t.counts]

end ImageTiers
