/-!
# The base controller

Text of the browser runtime, line by line: the namespace and the controller class: loading of scripts, hooks, notifications, lifecycle.
-/

set_option autoImplicit false

namespace LiveMarkup.Browser

/-- The lines of this part of the runtime. -/
def controllerLines : List String := [
  "/* Strata runtime: controller base and shared helpers. */",
  "(function (global) \x7b",
  "  \"use strict\";",
  "",
  "  const Strata = (global.Strata = global.Strata || \x7b\x7d);",
  "  Strata.instances = Strata.instances || \x7b\x7d;",
  "  if (Strata.Controller) \x7b",
  "    return;",
  "  \x7d",
  "",
  "  const PREFIX = \"[strata]\";",
  "  const AsyncFunction = Object.getPrototypeOf(async function () \x7b\x7d).constructor;",
  "  const loading = \x7b\x7d;",
  "",
  "  /* One underscore per code point, matching the generator. */",
  "  Strata.sanitize = function (id) \x7b",
  "    return String(id).replace(/[^A-Za-z0-9_]/gu, \"_\");",
  "  \x7d;",
  "",
  "  Strata.globalName = function (id) \x7b",
  "    return \"strata_\" + Strata.sanitize(id);",
  "  \x7d;",
  "",
  "  Strata.text = function text(value) \x7b",
  "    if (value === null || value === undefined) \x7b",
  "      return \"\";",
  "    \x7d",
  "    if (Array.isArray(value)) \x7b",
  "      return value.map(text).join(\", \");",
  "    \x7d",
  "    if (typeof value === \"object\") \x7b",
  "      return JSON.stringify(value);",
  "    \x7d",
  "    return String(value);",
  "  \x7d;",
  "",
  "  Strata.number = function (value) \x7b",
  "    if (typeof value === \"number\") \x7b",
  "      return Number.isFinite(value) ? value : null;",
  "    \x7d",
  "    if (typeof value === \"string\" && value.trim() !== \"\") \x7b",
  "      const n = Number(value.trim());",
  "      return Number.isFinite(n) ? n : null;",
  "    \x7d",
  "    return null;",
  "  \x7d;",
  "",
  "  Strata.bool = function (value) \x7b",
  "    if (typeof value === \"boolean\") \x7b",
  "      return value;",
  "    \x7d",
  "    if (typeof value === \"number\") \x7b",
  "      return value !== 0;",
  "    \x7d",
  "    if (typeof value === \"string\") \x7b",
  "      const v = value.trim();",
  "      if ([\"true\", \"1\", \"yes\", \"on\"].includes(v)) \x7b",
  "        return true;",
  "      \x7d",
  "      if ([\"false\", \"0\", \"no\", \"off\"].includes(v)) \x7b",
  "        return false;",
  "      \x7d",
  "    \x7d",
  "    return null;",
  "  \x7d;",
  "",
  "  function looselyEqual(a, b) \x7b",
  "    if (a === b) \x7b",
  "      return true;",
  "    \x7d",
  "    if (Array.isArray(a) && !Array.isArray(b)) \x7b",
  "      return a.length === 1 && looselyEqual(a[0], b);",
  "    \x7d",
  "    if (Array.isArray(b) && !Array.isArray(a)) \x7b",
  "      return b.length === 1 && looselyEqual(a, b[0]);",
  "    \x7d",
  "    return Strata.text(a) === Strata.text(b);",
  "  \x7d",
  "",
  "  function isEmpty(value) \x7b",
  "    if (value === null || value === undefined) \x7b",
  "      return true;",
  "    \x7d",
  "    if (typeof value === \"string\") \x7b",
  "      return value.trim() === \"\";",
  "    \x7d",
  "    if (Array.isArray(value)) \x7b",
  "      return value.length === 0;",
  "    \x7d",
  "    if (typeof value === \"object\") \x7b",
  "      return Object.keys(value).length === 0;",
  "    \x7d",
  "    return false;",
  "  \x7d",
  "",
  "  function contains(actual, expected) \x7b",
  "    if (Array.isArray(actual)) \x7b",
  "      return actual.some((v) => looselyEqual(v, expected));",
  "    \x7d",
  "    return Strata.text(actual).includes(Strata.text(expected));",
  "  \x7d",
  "",
  "  function compare(actual, expected) \x7b",
  "    const a = Strata.number(actual);",
  "    const b = Strata.number(expected);",
  "    if (a === null || b === null) \x7b",
  "      return null;",
  "    \x7d",
  "    return a - b;",
  "  \x7d",
  "",
  "  Strata.evaluateCondition = function (operator, actual, expected) \x7b",
  "    switch (operator || \"equals\") \x7b",
  "      case \"equals\":",
  "        return looselyEqual(actual, expected);",
  "      case \"notEquals\":",
  "        return !looselyEqual(actual, expected);",
  "      case \"contains\":",
  "        return contains(actual, expected);",
  "      case \"notContains\":",
  "        return !contains(actual, expected);",
  "      case \"greaterThan\": \x7b",
  "        const d = compare(actual, expected);",
  "        return d !== null && d > 0;",
  "      \x7d",
  "      case \"lessThan\": \x7b",
  "        const d = compare(actual, expected);",
  "        return d !== null && d < 0;",
  "      \x7d",
  "      case \"isEmpty\":",
  "        return isEmpty(actual);",
  "      case \"isNotEmpty\":",
  "        return !isEmpty(actual);",
  "      case \"checked\":",
  "        return Strata.bool(actual) === true;",
  "      case \"unchecked\":",
  "        return Strata.bool(actual) !== true;",
  "      case \"in\":",
  "        return Array.isArray(expected)",
  "          ? expected.some((o) => looselyEqual(actual, o))",
  "          : looselyEqual(actual, expected);",
  "      default:",
  "        console.warn(PREFIX, \"unknown condition operator:\", operator);",
  "        return false;",
  "    \x7d",
  "  \x7d;",
  "",
  "  /* Current value of a form control, or of any element via data-value. */",
  "  Strata.readValue = function (el) \x7b",
  "    if (!el) \x7b",
  "      return null;",
  "    \x7d",
  "    if (el.type === \"checkbox\") \x7b",
  "      return el.checked;",
  "    \x7d",
  "    if (el.type === \"radio\") \x7b",
  "      const form = el.form || document;",
  "      const picked = form.querySelector('input[type=\"radio\"][name=\"' + el.name + '\"]:checked');",
  "      return picked ? picked.value : null;",
  "    \x7d",
  "    if (el.tagName === \"SELECT\" && el.multiple) \x7b",
  "      return Array.from(el.selectedOptions).map((o) => o.value);",
  "    \x7d",
  "    if (\"value\" in el) \x7b",
  "      return el.value;",
  "    \x7d",
  "    return el.dataset.value !== undefined ? el.dataset.value : el.textContent;",
  "  \x7d;",
  "",
  "  Strata.loadScript = function (ext) \x7b",
  "    if (!loading[ext.src]) \x7b",
  "      loading[ext.src] = new Promise((resolve, reject) => \x7b",
  "        const el = document.createElement(\"script\");",
  "        el.src = ext.src;",
  "        el.async = !!ext.async;",
  "        el.defer = !!ext.defer;",
  "        el.onload = () => resolve();",
  "        el.onerror = () => reject(new Error(\"failed to load \" + ext.src));",
  "        document.head.appendChild(el);",
  "      \x7d);",
  "    \x7d",
  "    return loading[ext.src];",
  "  \x7d;",
  "",
  "  function compile(name, body) \x7b",
  "    try \x7b",
  "      return new AsyncFunction(\"context\", body);",
  "    \x7d catch (err) \x7b",
  "      console.error(PREFIX, \"invalid hook \" + name + \":\", err);",
  "      return null;",
  "    \x7d",
  "  \x7d",
  "",
  "  function compileHooks(hooks) \x7b",
  "    const out = \x7b stateHooks: \x7b\x7d \x7d;",
  "    Object.keys(hooks).forEach((key) => \x7b",
  "      if (key === \"stateHooks\") \x7b",
  "        Object.keys(hooks.stateHooks).forEach((state) => \x7b",
  "          out.stateHooks[state] = compile(\"state:\" + state, hooks.stateHooks[state]);",
  "        \x7d);",
  "      \x7d else \x7b",
  "        out[key] = compile(key, hooks[key]);",
  "      \x7d",
  "    \x7d);",
  "    return out;",
  "  \x7d",
  "",
  "  function readConfig(id) \x7b",
  "    const el = document.getElementById(id + \"-config\");",
  "    if (!el) \x7b",
  "      return \x7b\x7d;",
  "    \x7d",
  "    try \x7b",
  "      return JSON.parse(el.textContent);",
  "    \x7d catch (err) \x7b",
  "      console.error(PREFIX, \"invalid configuration for \" + id + \":\", err);",
  "      return \x7b\x7d;",
  "    \x7d",
  "  \x7d",
  "",
  "  class Controller \x7b",
  "    constructor(id) \x7b",
  "      this.id = id;",
  "      this.lifecycle = \"uninitialized\";",
  "      this.root = document.getElementById(id);",
  "      this.config = readConfig(id);",
  "      this.theme = this.config.theme || \x7b\x7d;",
  "      this.hooks = compileHooks(this.config.hooks || \x7b\x7d);",
  "      this.listeners = \x7b\x7d;",
  "      this.cleanup = [];",
  "      this.stateFilters = \x7b\x7d;",
  "      this.registry = new Map();",
  "      (this.config.externalRegistry || []).forEach((name) => this.registry.set(name, null));",
  "      this.states = null;",
  "      this.data = null;",
  "      this.rules = null;",
  "    \x7d",
  "",
  "    async init() \x7b",
  "      if (this.lifecycle !== \"uninitialized\") \x7b",
  "        return this.lifecycle;",
  "      \x7d",
  "      if (!this.root) \x7b",
  "        console.error(PREFIX, \"container not found:\", this.id);",
  "        this.lifecycle = \"error\";",
  "        return this.lifecycle;",
  "      \x7d",
  "",
  "      this.lifecycle = \"loading-externals\";",
  "      try \x7b",
  "        await this.loadExternals();",
  "      \x7d catch (err) \x7b",
  "        if (this.lifecycle === \"destroyed\") \x7b",
  "          return this.lifecycle;",
  "        \x7d",
  "        console.error(PREFIX, this.id, err);",
  "        this.lifecycle = \"error\";",
  "        this.emit(\"error\", \x7b error: String(err) \x7d);",
  "        return this.lifecycle;",
  "      \x7d",
  "      if (this.lifecycle === \"destroyed\") \x7b",
  "        return this.lifecycle;",
  "      \x7d",
  "",
  "      this.lifecycle = \"initializing\";",
  "      const proceed = await this.runHook(\"beforeInit\", \x7b\x7d);",
  "      if (this.lifecycle === \"destroyed\") \x7b",
  "        return this.lifecycle;",
  "      \x7d",
  "      if (proceed === false) \x7b",
  "        this.lifecycle = \"uninitialized\";",
  "        return this.lifecycle;",
  "      \x7d",
  "      try \x7b",
  "        this.setup();",
  "      \x7d catch (err) \x7b",
  "        console.error(PREFIX, \"setup failed for \" + this.id + \":\", err);",
  "        this.lifecycle = \"error\";",
  "        this.emit(\"error\", \x7b error: String(err) \x7d);",
  "        return this.lifecycle;",
  "      \x7d",
  "",
  "      this.lifecycle = \"ready\";",
  "      this.publish();",
  "      await this.runHook(\"afterInit\", \x7b\x7d);",
  "      if (this.lifecycle !== \"ready\") \x7b",
  "        return this.lifecycle;",
  "      \x7d",
  "      this.emit(\"ready\", \x7b pattern: this.config.pattern \x7d);",
  "      return this.lifecycle;",
  "    \x7d",
  "",
  "    /* Overridden by the generated per-component class. */",
  "    setup() \x7b\x7d",
  "",
  "    /* Required scripts load in parallel and gate init; optional ones never do. */",
  "    async loadExternals() \x7b",
  "      const externals = this.config.externalScripts || [];",
  "      const required = externals.filter((ext) => ext.required);",
  "      const pending = Promise.all(required.map((ext) => this.loadExternal(ext)));",
  "      externals",
  "        .filter((ext) => !ext.required)",
  "        .forEach((ext) => \x7b",
  "          this.loadExternal(ext).catch((err) => \x7b",
  "            console.warn(PREFIX, \"optional external script failed:\", ext.src, err);",
  "          \x7d);",
  "        \x7d);",
  "      await pending;",
  "    \x7d",
  "",
  "    async loadExternal(ext) \x7b",
  "      await Strata.loadScript(ext);",
  "      if (ext.onLoad && this.lifecycle !== \"destroyed\") \x7b",
  "        const onLoad = compile(\"onLoad\", ext.onLoad);",
  "        if (onLoad) \x7b",
  "          await onLoad.call(this, \x7b src: ext.src \x7d);",
  "        \x7d",
  "      \x7d",
  "    \x7d",
  "",
  "    /* Registers the instance under Strata.instances and its window global. */",
  "    publish() \x7b",
  "      const name = Strata.globalName(this.id);",
  "      const taken = global[name];",
  "      Strata.instances[this.id] = this;",
  "      if (taken && taken !== this && taken.id !== this.id) \x7b",
  "        console.error(PREFIX, \"global \" + name + \" already used by \" + taken.id + \"; not replaced for\", this.id);",
  "        return;",
  "      \x7d",
  "      global[name] = this;",
  "    \x7d",
  "",
  "    unpublish() \x7b",
  "      if (Strata.instances[this.id] === this) \x7b",
  "        delete Strata.instances[this.id];",
  "      \x7d",
  "      const name = Strata.globalName(this.id);",
  "      if (global[name] === this) \x7b",
  "        delete global[name];",
  "      \x7d",
  "    \x7d",
  "",
  "    async runHook(name, context) \x7b",
  "      return this.invoke(name, this.hooks[name], context);",
  "    \x7d",
  "",
  "    async runStateHook(state, context) \x7b",
  "      return this.invoke(\"state:\" + state, this.hooks.stateHooks[state], context);",
  "    \x7d",
  "",
  "    async invoke(name, fn, context) \x7b",
  "      if (!fn) \x7b",
  "        return undefined;",
  "      \x7d",
  "      try \x7b",
  "        return await fn.call(this, context);",
  "      \x7d catch (err) \x7b",
  "        console.error(PREFIX, \"hook \" + name + \" failed:\", err);",
  "        return undefined;",
  "      \x7d",
  "    \x7d",
  "",
  "    on(name, callback) \x7b",
  "      (this.listeners[name] = this.listeners[name] || []).push(callback);",
  "      return () => \x7b",
  "        this.listeners[name] = (this.listeners[name] || []).filter((cb) => cb !== callback);",
  "      \x7d;",
  "    \x7d",
  "",
  "    emit(name, data) \x7b",
  "      (this.listeners[name] || []).slice().forEach((cb) => \x7b",
  "        try \x7b",
  "          cb(data, this);",
  "        \x7d catch (err) \x7b",
  "          console.error(PREFIX, \"listener for \" + name + \" failed:\", err);",
  "        \x7d",
  "      \x7d);",
  "      if (this.root) \x7b",
  "        this.root.dispatchEvent(",
  "          new CustomEvent(\"strata:\" + name, \x7b bubbles: true, detail: \x7b data: data, controller: this \x7d \x7d)",
  "        );",
  "      \x7d",
  "    \x7d",
  "",
  "    listen(el, type, handler) \x7b",
  "      el.addEventListener(type, handler);",
  "      this.cleanup.push(() => el.removeEventListener(type, handler));",
  "    \x7d",
  "",
  "    cls(role) \x7b",
  "      return this.theme[role] || \"\";",
  "    \x7d",
  "",
  "    toggle(el, role, on) \x7b",
  "      const name = this.cls(role);",
  "      if (el && name) \x7b",
  "        el.classList.toggle(name, on);",
  "      \x7d",
  "    \x7d",
  "",
  "    registerExternal(name, object) \x7b",
  "      if (this.lifecycle === \"destroyed\") \x7b",
  "        console.warn(PREFIX, \"registry cleared; ignoring\", name);",
  "        return false;",
  "      \x7d",
  "      if (!this.registry.has(name)) \x7b",
  "        console.warn(PREFIX, \"external not reserved:\", name);",
  "        return false;",
  "      \x7d",
  "      this.registry.set(name, object);",
  "      this.emit(\"external-registered\", \x7b name: name \x7d);",
  "      return true;",
  "    \x7d",
  "",
  "    getExternal(name) \x7b",
  "      return this.registry.get(name) || null;",
  "    \x7d",
  "",
  "    /* Terminal and synchronous; onDestroy runs last and cannot delay teardown. */",
  "    destroy() \x7b",
  "      if (this.lifecycle === \"destroyed\") \x7b",
  "        return 0;",
  "      \x7d",
  "      this.lifecycle = \"destroyed\";",
  "      this.cleanup.splice(0).forEach((undo) => undo());",
  "      this.unpublish();",
  "      let destroyed = 0;",
  "      this.registry.forEach((object, name) => \x7b",
  "        if (object && typeof object.destroy === \"function\") \x7b",
  "          try \x7b",
  "            object.destroy();",
  "            destroyed += 1;",
  "          \x7d catch (err) \x7b",
  "            console.warn(PREFIX, \"destroying external \" + name + \" failed:\", err);",
  "          \x7d",
  "        \x7d",
  "      \x7d);",
  "      this.registry.clear();",
  "      this.states = null;",
  "      this.data = null;",
  "      this.rules = null;",
  "      this.emit(\"destroy\", \x7b externals: destroyed \x7d);",
  "      this.runHook(\"onDestroy\", \x7b\x7d);",
  "      return destroyed;",
  "    \x7d",
  "  \x7d",
  "",
  "  Strata.Controller = Controller;",
  "\x7d)(window);",
  ""]

end LiveMarkup.Browser
