import Cosmac.Workbench
import Cosmac.Loading.FileTree
import Cosmac.Screen.Monitor
import Cosmac.Screen.Buffered
import Cosmac.Main
import Cosmac.Proofs.Loading.ByPath
import Cosmac.Proofs.Loading.Reading
import Cosmac.Proofs.Loading.History
import Cosmac.Proofs.Loading.Routes
import Cosmac.Proofs.Framebuffer.Edits
import Cosmac.Proofs.Memory.Accesses
import Cosmac.Proofs.Screen.Library
import Cosmac.Proofs.Screen.Marks
import Cosmac.Proofs.Screen.Picture
import Cosmac.Proofs.Screen.Counts
import Cosmac.Proofs.Screen.Buffered
import Cosmac.Proofs.Screen.Runs
import Cosmac.Proofs.Keyboard.Alike
import Cosmac.Proofs.Workbench.Components
import Cosmac.Proofs.Launch.Session
import Cosmac.Proofs.Framebuffer.Plots
import Cosmac.Proofs.Memory.Sizes
import Cosmac.Proofs.Framebuffer.Views
import Cosmac.Proofs.Loading.Words
import Cosmac.Proofs.Keypad.Edits
import Cosmac.Proofs.Keyboard.StandIn
import Cosmac.Proofs.Launch.Grammar
import Cosmac.Proofs.Framebuffer.Glyphs
import Cosmac.Proofs.Machine.Drawing
import Cosmac.Proofs.Text.Messages
import Cosmac.Proofs.Machine.Outlines
