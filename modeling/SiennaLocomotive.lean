import SiennaLocomotive.Basic
import SiennaLocomotive.Modules
import SiennaLocomotive.Coverage
import SiennaLocomotive.CodeCache
import SiennaLocomotive.HookSelection
import SiennaLocomotive.Mutate
import SiennaLocomotive.Session
import SiennaLocomotive.Outcome
import SiennaLocomotive.Wrapping
import SiennaLocomotive.Threads.Model
import SiennaLocomotive.Threads.Serial
import SiennaLocomotive.Threads.Capture
import SiennaLocomotive.Threads.Counter
import SiennaLocomotive.Threads.Dump
import SiennaLocomotive.Targeting
