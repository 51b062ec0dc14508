import PadScript.Console
import PadScript.Main
import PadScript.Proofs.Files.FrameDump
import PadScript.Proofs.Files.SavedSettings
import PadScript.Proofs.Host.Recompiling
import PadScript.Proofs.Host.Shutdown
import PadScript.Proofs.Play.Clocks
import PadScript.Proofs.Play.Remaining
import PadScript.Proofs.Play.Seeds
import PadScript.Proofs.Play.Stopping
import PadScript.Proofs.Play.Timing
import PadScript.Proofs.Play.Waits
import PadScript.Proofs.Screen.CurrentLine
import PadScript.Proofs.Screen.LogRecords
import PadScript.Proofs.Screen.Loop
import PadScript.Proofs.Screen.Newest
import PadScript.Proofs.Screen.Wheel
import PadScript.Proofs.Script.Calling
import PadScript.Proofs.Script.Chords
import PadScript.Proofs.Script.LineEndings
import PadScript.Proofs.Script.Numbers
import PadScript.Proofs.Script.Phrases
import PadScript.Proofs.Script.Prefixes
import PadScript.Proofs.Script.Reordering
import PadScript.Proofs.Script.Seams
import PadScript.Proofs.Script.Squeezing
import PadScript.Proofs.Script.StartOption
import PadScript.Proofs.Tool.Bench
import PadScript.Sandbox
import PadScript.Service
