namespace ShaderInterface

variable {α κ : Type} [DecidableEq κ]

/-- One element for each key, in the order in which the keys first appear: the last with it. -/
def latestBy (key : α → κ) (l : List α) : List α :=
  (l.map key).eraseDups.filterMap fun k => l.findRev? (key · == k)

end ShaderInterface
