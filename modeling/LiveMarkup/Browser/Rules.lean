/-!
# The manager of rules

Text of the browser runtime, line by line: evaluating conditions and acting on elements.
-/

set_option autoImplicit false

namespace LiveMarkup.Browser

/-- The lines of this part of the runtime. -/
def rulesLines : List String := [
  "/* Strata runtime: dependency rules manager. */",
  "(function (global) \x7b",
  "  \"use strict\";",
  "",
  "  const Strata = (global.Strata = global.Strata || \x7b\x7d);",
  "  if (Strata.RulesManager) \x7b",
  "    return;",
  "  \x7d",
  "",
  "  const PREFIX = \"[strata]\";",
  "",
  "  /* Show and hide are complementary; other actions only run while the condition holds. */",
  "  function effective(kind, holds) \x7b",
  "    switch (kind) \x7b",
  "      case \"show\":",
  "        return holds ? \"show\" : \"hide\";",
  "      case \"hide\":",
  "        return holds ? \"hide\" : \"show\";",
  "      case \"enable\":",
  "      case \"disable\":",
  "      case \"addClass\":",
  "      case \"removeClass\":",
  "      case \"setValue\":",
  "      case \"setText\":",
  "      case \"setHTML\":",
  "      case \"focus\":",
  "      case \"blur\":",
  "        return holds ? kind : null;",
  "      default:",
  "        console.warn(PREFIX, \"unknown action kind skipped:\", kind);",
  "        return null;",
  "    \x7d",
  "  \x7d",
  "",
  "  class RulesManager \x7b",
  "    constructor(controller) \x7b",
  "      this.controller = controller;",
  "      this.states = null;",
  "      this.byTrigger = new Map();",
  "      (controller.config.rules || []).forEach((rule) => \x7b",
  "        const trigger = rule.trigger.componentId;",
  "        if (!this.byTrigger.has(trigger)) \x7b",
  "          this.byTrigger.set(trigger, []);",
  "        \x7d",
  "        this.byTrigger.get(trigger).push(rule);",
  "      \x7d);",
  "      this.bind();",
  "    \x7d",
  "",
  "    /* Show and hide on a state id switch states instead of toggling visibility. */",
  "    delegateStates(states) \x7b",
  "      this.states = states;",
  "    \x7d",
  "",
  "    bind() \x7b",
  "      this.byTrigger.forEach((rules, trigger) => \x7b",
  "        const el = document.getElementById(trigger);",
  "        if (!el) \x7b",
  "          console.warn(PREFIX, \"rule trigger not found:\", trigger);",
  "          return;",
  "        \x7d",
  "        el.setAttribute(\"data-dependency-trigger\", \"\");",
  "        const events = new Set(rules.map((r) => r.trigger.event || \"change\"));",
  "        events.forEach((type) => this.controller.listen(el, type, () => this.evaluate(trigger)));",
  "      \x7d);",
  "    \x7d",
  "",
  "    evaluateAll() \x7b",
  "      this.byTrigger.forEach((_, trigger) => this.evaluate(trigger));",
  "    \x7d",
  "",
  "    evaluate(trigger) \x7b",
  "      const rules = this.byTrigger.get(trigger) || [];",
  "      const value = Strata.readValue(document.getElementById(trigger));",
  "      let applied = 0;",
  "      rules.forEach((rule) => \x7b",
  "        const holds = Strata.evaluateCondition(rule.trigger.condition, value, rule.trigger.value);",
  "        (rule.actions || []).forEach((action) => \x7b",
  "          const kind = effective(action.action, holds);",
  "          if (kind) \x7b",
  "            this.execute(rule, action, kind);",
  "            applied += 1;",
  "          \x7d",
  "        \x7d);",
  "      \x7d);",
  "      if (applied > 0) \x7b",
  "        this.controller.emit(\"rules-applied\", \x7b trigger: trigger, actions: applied \x7d);",
  "      \x7d",
  "      return applied;",
  "    \x7d",
  "",
  "    execute(rule, action, kind) \x7b",
  "      const target = action.targetId;",
  "      if (this.states && this.states.has(target) && (kind === \"show\" || kind === \"hide\")) \x7b",
  "        this.executeOnState(target, kind);",
  "        return;",
  "      \x7d",
  "      const el = document.getElementById(target);",
  "      if (!el) \x7b",
  "        console.warn(PREFIX, \"rule \" + rule.id + \": target not found, action skipped:\", target);",
  "        return;",
  "      \x7d",
  "      el.setAttribute(\"data-dependency-target\", \"\");",
  "      const text = Strata.text(action.value);",
  "      switch (kind) \x7b",
  "        case \"show\":",
  "          el.hidden = false;",
  "          this.controller.toggle(el, \"hidden\", false);",
  "          break;",
  "        case \"hide\":",
  "          el.hidden = true;",
  "          this.controller.toggle(el, \"hidden\", true);",
  "          break;",
  "        case \"enable\":",
  "          el.disabled = false;",
  "          el.removeAttribute(\"aria-disabled\");",
  "          this.controller.toggle(el, \"disabled\", false);",
  "          break;",
  "        case \"disable\":",
  "          el.disabled = true;",
  "          el.setAttribute(\"aria-disabled\", \"true\");",
  "          this.controller.toggle(el, \"disabled\", true);",
  "          break;",
  "        case \"addClass\":",
  "          if (text) \x7b",
  "            el.classList.add(text);",
  "          \x7d",
  "          break;",
  "        case \"removeClass\":",
  "          if (text) \x7b",
  "            el.classList.remove(text);",
  "          \x7d",
  "          break;",
  "        case \"setValue\":",
  "          if (el.type === \"checkbox\") \x7b",
  "            el.checked = Strata.bool(action.value) === true;",
  "          \x7d else \x7b",
  "            el.value = text;",
  "          \x7d",
  "          break;",
  "        case \"setText\":",
  "          el.textContent = text;",
  "          break;",
  "        case \"setHTML\":",
  "          el.innerHTML = text;",
  "          break;",
  "        case \"focus\":",
  "          el.focus();",
  "          break;",
  "        case \"blur\":",
  "          el.blur();",
  "          break;",
  "      \x7d",
  "    \x7d",
  "",
  "    executeOnState(target, kind) \x7b",
  "      if (kind === \"show\") \x7b",
  "        this.states.switchTo(target);",
  "      \x7d else if (this.states.active === target && this.states.initial && this.states.initial !== target) \x7b",
  "        this.states.switchTo(this.states.initial);",
  "      \x7d",
  "    \x7d",
  "  \x7d",
  "",
  "  Strata.RulesManager = RulesManager;",
  "\x7d)(window);",
  ""]

end LiveMarkup.Browser
