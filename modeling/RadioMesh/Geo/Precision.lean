import RadioMesh.Floating.Binary64

/-!
How precisely a position is told: the mesh counts the leading bits that are kept, people give a radius in
meters.
-/

namespace RadioMesh.Geo

/-- The smallest radius, in meters, that each number of bits stands for. -/
def precisionSteps : List (Nat × UInt32) :=
  [(23300, 10), (11700, 11), (5800, 12), (2900, 13), (1500, 14), (729, 15), (364, 16), (182, 17), (91, 18),
    (45, 19)]

/-- The bits for an uncertainty in meters; 0 says that the precise position is not shared. -/
def precisionBits : Option Binary64 → UInt32
  | none => 0
  | some m =>
    match precisionSteps.find? fun step => m.atLeast step.1 with
    | some step => step.2
    | none => 20

/-- The radius in meters for each number of bits. -/
def radii : List (UInt32 × UInt32) :=
  [(2, 5976446), (3, 2988223), (4, 1494111), (5, 747055), (6, 373527), (7, 186763), (8, 93381), (9, 46690),
    (10, 23345), (11, 11672), (12, 5836), (13, 2918), (14, 1459), (15, 729), (16, 364), (17, 182), (18, 91),
    (19, 45), (20, 22), (21, 11), (22, 5), (23, 2), (24, 1)]

def precisionInMeters (bits : UInt32) : UInt32 :=
  (radii.lookup bits).getD 0

end RadioMesh.Geo
