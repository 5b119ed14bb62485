import GolemUnlimited.Provider.Path
import GolemUnlimited.Provider.Session
import GolemUnlimited.Provider.HdMan
import GolemUnlimited.Provider.Reaper
import GolemUnlimited.Provider.Pipeline
import GolemUnlimited.Provider.Actor
import GolemUnlimited.Provider.Transitions
import GolemUnlimited.Provider.Lifecycle
import GolemUnlimited.Provider.Creation
import GolemUnlimited.Provider.Children
import GolemUnlimited.Provider.Ownership
import GolemUnlimited.Provider.Replies
import GolemUnlimited.Provider.Dirty
import GolemUnlimited.Provider.Confinement
import GolemUnlimited.Ethkey.Keystore
import GolemUnlimited.Lan.Services
import GolemUnlimited.Hub.PluginFiles
