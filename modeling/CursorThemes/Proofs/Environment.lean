import CursorThemes.Installation
import CursorThemes.Proofs.Renaming

/-! # What the environment decides

A theme can be loaded from the environment in two ways: through the configuration that the environment
holds, or by the name and the size in it, where the loader asks the environment again.

* **`Config.loaderPaths_ofEnvironment`** says that both look into the same directories, even if there
  are none.
* **`Config.scaledSize_ofEnvironment`** says that both ask for the same size, which is positive.
* **`Theme.environment_ways_agree`** is the result. -/

namespace CursorThemes

namespace Config

/-- The size in a variable is positive, and so is the one that stands in for it. -/
theorem one_le_sizeOf (text : Option String) : 1 ≤ sizeOf text := by
  unfold sizeOf
  split
  · rename_i size found
    by_cases zero : size = 0
    · rw [if_pos zero]
      decide
    · rw [if_neg zero, UInt32.le_iff_toNat_le]
      exact Nat.pos_of_ne_zero fun none => zero (UInt32.toNat_inj.mp none)
  · decide

/-- A positive size that is not scaled is the size to load. -/
theorem scaledSize_of_scale_eq_one {config : Config} (unscaled : config.scale = 1)
    (positive : 1 ≤ config.size) : config.scaledSize = config.size := by
  have same : satMul config.size config.scale = config.size := by
    have bound : config.size.toNat < UInt32.size := config.size.toNat_lt
    rw [← UInt32.toNat_inj, toNat_satMul, unscaled, UInt32.toNat_one, Nat.mul_one]
    exact Nat.min_eq_left (Nat.le_pred_of_lt bound)
  have nonzero : config.size ≠ 0 := by
    intro zero
    rw [zero] at positive
    exact absurd positive (by decide)
  rw [scaledSize, same, if_neg nonzero]

variable (environment : Environment)

/-- **The size of the environment** is positive, and it is the one that is loaded. -/
theorem scaledSize_ofEnvironment :
    1 ≤ (ofEnvironment environment).1.size ∧
      (ofEnvironment environment).1.scaledSize = (ofEnvironment environment).1.size := by
  have positive : 1 ≤ (ofEnvironment environment).1.size := one_le_sizeOf _
  exact ⟨positive, scaledSize_of_scale_eq_one rfl positive⟩

/-- The directories of the configuration are those that the environment names. -/
theorem searchPaths_ofEnvironment :
    (ofEnvironment environment).1.searchPaths = environment.searchPaths.paths := rfl

/-- **The configuration of the environment looks where the environment says.** If that is nowhere, the
configuration leaves the choice to the environment, and this comes to the same. -/
theorem loaderPaths_ofEnvironment :
    ((ofEnvironment environment).1.loaderPaths environment).paths = environment.searchPaths.paths := by
  by_cases nowhere : (ofEnvironment environment).1.searchPaths = []
  · rw [loaderPaths_of_nil nowhere]
  · rw [loaderPaths_of_ne_nil nowhere]
    rfl

end Config

namespace Theme

/-- **The two ways of loading from the environment agree.** Whatever the variables hold, and whether a
home directory is known or not, the directories of the configuration of the environment, those that
its loader looks into and those that the environment names are the same, in the same order. Its size
is positive, and scaling leaves it as it is. On every tree and every host, and with any system calls
failing, the theme of this configuration and the installed theme of its name and size are the same,
or fail with the same error; their loaders are asked for the same, and the host receives the same
requests. -/
theorem environment_ways_agree (environment : Environment) :
    let config := (Config.ofEnvironment environment).1
    config.searchPaths = environment.searchPaths.paths ∧
      (config.loaderPaths environment).paths = environment.searchPaths.paths ∧
      1 ≤ config.size ∧ config.scaledSize = config.size ∧
      ∀ (tree : FileTree) (trouble : Trouble) (host : Host),
        let configured := loadConfigured tree environment config trouble host
        let installed := loadInstalled tree environment config.theme config.size trouble host
        configured.outcome = installed.outcome ∧ configured.asked = installed.asked ∧
          configured.host.requests = installed.host.requests := by
  intro config
  obtain ⟨positive, unscaled⟩ := Config.scaledSize_ofEnvironment environment
  have paths := Config.loaderPaths_ofEnvironment environment
  refine ⟨Config.searchPaths_ofEnvironment environment, paths, positive, unscaled, ?_⟩
  intro tree trouble host configured installed
  -- the two loads differ in what was logged about the directories before them
  have alike : Host.Alike (host.logAll environment.searchPaths.notices)
      (host.logAll (config.loaderPaths environment).notices) := ⟨rfl, rfl, rfl⟩
  have same : configured = load config.theme config.size
      (Xcursor.loader tree environment.searchPaths.paths) trouble
      (host.logAll (config.loaderPaths environment).notices) := by
    rw [← paths, ← unscaled]
    rfl
  rw [same]
  exact load_of_alike alike config.theme config.size _ trouble

end Theme

end CursorThemes
